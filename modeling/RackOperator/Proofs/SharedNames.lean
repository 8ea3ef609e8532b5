import RackOperator.Admission
import RackOperator.Proofs.Aims
import RackOperator.Proofs.Deeds

/-!
# DataCenters that share names

What a DataCenter has is named after its stem, the cluster and the datacenter with a dash between
them, and a name says its stem (`Naming.stem_eq_of_owns`). So two DataCenters of one namespace
share all their names or none, and which of the two it is depends on the stems alone
(`Naming.apart_iff`).

A dash may stand in either part of a stem, and nothing marks the one in the middle. Two pairs of
names come to one stem exactly when a piece of the datacenter's name of one is taken over by the
cluster's name of the other (`Naming.Shifted`): the cluster `a-b` with the datacenter `c`, and the
cluster `a` with the datacenter `b-c`. Admission lets both pass (`shifted_admitted`).

Whatever a pass or an advance does to Services, StatefulSets and pods, it does under the names of a
DataCenter it has found (`Errand.owns_of_follows`). So units of DataCenters whose names are apart
touch nothing in common, however they run (`DataCenter.apart_unless_shifted`).
-/

namespace RackOperator

namespace Naming

variable {n n' : Naming} {a : Asset}

/-- A name that a DataCenter has for something of its own. -/
def Owns (n : Naming) : Asset → Prop
  | .service name => name = n.stem
  | .statefulSet name => ∃ i, name = n.statefulSetName (.new i)
  | .pod name => ∃ i o, name = n.podName (.new i) o

/-- Two DataCenters have no name in common. -/
def Apart (n n' : Naming) : Prop := ∀ a, n.Owns a → ¬n'.Owns a

/-- The cluster of the second has taken a piece over from the datacenter of the first. -/
def Shifted (n n' : Naming) : Prop :=
  ∃ piece, n'.cluster = n.cluster ++ "-" ++ piece ∧ n.datacenter = piece ++ "-" ++ n'.datacenter

/-! ## Names and stems -/

/-- A name says the stem it was made of, be it that of a Service, a StatefulSet or a pod. -/
theorem stem_eq_of_owns (h : n.Owns a) (h' : n'.Owns a) : n.stem = n'.stem := by
  cases a with
  | service name =>
    unfold Owns at h h'
    rw [← h, ← h']
  | statefulSet name =>
    obtain ⟨i, rfl⟩ := h
    obtain ⟨j, hj⟩ := h'
    exact (statefulSetName_new_inj hj).1
  | pod name =>
    obtain ⟨i, o, rfl⟩ := h
    obtain ⟨j, o', hj⟩ := h'
    exact (podName_new_inj hj).1

/-- Nothing but the stem goes into the names. -/
theorem owns_congr (h : n.stem = n'.stem) (a : Asset) : n.Owns a ↔ n'.Owns a := by
  cases a <;> simp only [Owns, podName, statefulSetName, h]

theorem apart_iff : n.Apart n' ↔ n.stem ≠ n'.stem := by
  constructor
  · intro hapart hstem
    have hown : n.Owns (.service n.stem) := rfl
    exact hapart _ hown ((owns_congr hstem _).mp hown)
  · intro hstem a h h'
    exact hstem (stem_eq_of_owns h h')

/-! ## Stems that come out the same -/

theorem Shifted.stem_eq (h : n.Shifted n') : n.stem = n'.stem := by
  obtain ⟨piece, hcluster, hdatacenter⟩ := h
  unfold stem
  rw [hcluster, hdatacenter]
  simp only [String.append_assoc]

/-- One stem that is cut in two places: what lies between the two cuts is the piece. -/
theorem shifted_of_append {cs : List Char} (hc : n'.cluster.toList = n.cluster.toList ++ cs)
    (hd : '-' :: n.datacenter.toList = cs ++ '-' :: n'.datacenter.toList) :
    n.cluster = n'.cluster ∧ n.datacenter = n'.datacenter ∨ n.Shifted n' := by
  cases cs with
  | nil =>
    left
    simp only [List.append_nil, List.nil_append, List.cons.injEq, true_and] at hc hd
    exact ⟨String.toList_injective hc.symm, String.toList_injective hd⟩
  | cons c piece =>
    right
    obtain ⟨rfl, hpiece⟩ := List.cons_eq_cons.mp hd
    refine ⟨String.ofList piece, String.toList_injective ?_, String.toList_injective ?_⟩
    · simp [hc]
    · simpa using hpiece

/-- Stems are the same if their parts are, or if a piece is shifted from one part to the other. -/
theorem stem_eq_iff : n.stem = n'.stem ↔
    n.cluster = n'.cluster ∧ n.datacenter = n'.datacenter ∨ n.Shifted n' ∨ n'.Shifted n := by
  constructor
  · intro h
    have hl : n.cluster.toList ++ '-' :: n.datacenter.toList =
        n'.cluster.toList ++ '-' :: n'.datacenter.toList := by
      have hchars := congrArg String.toList h
      simpa [stem] using hchars
    -- Equal stems are cut at the same dash, or one of the two at a later one.
    rcases List.append_eq_append_iff.mp hl with ⟨cs, hc, hd⟩ | ⟨cs, hc, hd⟩
    · rcases shifted_of_append hc hd with hsame | hshift
      · exact .inl hsame
      · exact .inr (.inl hshift)
    · rcases shifted_of_append hc hd with ⟨hcluster, hdatacenter⟩ | hshift
      · exact .inl ⟨hcluster.symm, hdatacenter.symm⟩
      · exact .inr (.inr hshift)
  · rintro (⟨hcluster, hdatacenter⟩ | hshift | hshift)
    · unfold stem
      rw [hcluster, hdatacenter]
    · exact hshift.stem_eq
    · exact hshift.stem_eq.symm

/-- A cluster whose name has no dash has taken nothing over. -/
theorem not_shifted_of_no_dash (h : '-' ∉ n'.cluster.toList) : ¬n.Shifted n' := by
  rintro ⟨piece, hcluster, -⟩
  rw [hcluster] at h
  simp at h

end Naming

/-! ## What effects are about -/

namespace Effect

/-- The StatefulSets and pods an effect looks at. -/
def visited (e : Effect) : List Asset :=
  e.lookedUp?.toList.map (fun k => .statefulSet k.name) ++ e.members.map fun m => .pod m.name

/-- The Services, StatefulSets and pods an effect has to do with. -/
def assets (e : Effect) : List Asset := e.built?.toList ++ e.visited

end Effect

/-- The Services, StatefulSets and pods that were had to do with. -/
def History.assets (h : History) : List Asset := h.flatMap fun a => a.effect.assets

/-- Whatever was found is a DataCenter of a cluster and a datacenter. -/
def History.Of (h : History) (dc : DataCenter) : Prop :=
  ∀ k found, h.Found k found →
    found.spec.clusterName = dc.spec.clusterName ∧
      found.spec.datacenterName = dc.spec.datacenterName

variable {dc : DataCenter} {e : Effect} {a : Asset} {key : ClusterKey} {config : Config}
  {h h' : History}

/-- A rack of a DataCenter has its name and its members' names from the DataCenter. -/
theorem exists_new_of_mem_racks {r : Rack} (hr : r ∈ dc.racks) : ∃ i, r = .new i := by
  obtain ⟨i, -, hi⟩ := Rack.mem_all.mp hr
  exact ⟨i, hi⟩

/-- What an effect within a DataCenter looks at has a name of that DataCenter. -/
theorem Effect.Within.owns {ns : String} (hw : e.Within ns dc) (ha : a ∈ e.visited) :
    dc.naming.Owns a := by
  rcases List.mem_append.mp ha with hlooked | hmember
  · obtain ⟨k, hk, rfl⟩ := List.mem_map.mp hlooked
    obtain ⟨r, hr, rfl⟩ := hw.lookedUp k (Option.mem_toList.mp hk)
    obtain ⟨i, rfl⟩ := exists_new_of_mem_racks hr
    exact ⟨i, rfl⟩
  · obtain ⟨m, hm, rfl⟩ := List.mem_map.mp hmember
    obtain ⟨r, hr, o, rfl⟩ := hw.members m hm
    obtain ⟨i, rfl⟩ := exists_new_of_mem_racks hr
    exact ⟨i, o, rfl⟩

/-- What an effect looks at belongs to the DataCenter that was found. -/
theorem Aims.owns (haims : Aims key h e) (ha : a ∈ e.visited) :
    ∃ found, h.Found key found ∧ found.naming.Owns a := by
  rcases haims with hapart | ⟨found, hfound, hwithin⟩
  · simp [Effect.visited, hapart.members, hapart.lookedUp] at ha
  · exact ⟨found, hfound, hwithin.owns ha⟩

/-- What a pass writes belongs to the DataCenter it has found: it is built from the spec of that
one, and takes its name from there. -/
theorem Pass.owns_of_built (hd : Due config key h e) (ha : e.built? = some a) :
    ∃ found, h.Found key found ∧ found.naming.Owns a := by
  cases hd with
  | ensureService dc =>
    cases ha
    exact ⟨dc, List.mem_cons_self, rfl⟩
  | createStatefulSet dc looked made r rest hl hm =>
    cases ha
    -- what is missing was looked up, and what is looked up are racks
    have hmissing : r ∈ (Census.of looked).missing := by
      rw [← hm]
      simp
    have hr : r ∈ dc.racks := by
      rw [← hl]
      exact (List.filter_sublist.map _).subset hmissing
    obtain ⟨i, rfl⟩ := exists_new_of_mem_racks hr
    refine ⟨dc, ?_, i, rfl⟩
    rw [List.append_assoc]
    exact found_opening dc _
  | replaceStatefulSet v hv sts hw =>
    cases ha
    obtain ⟨p, hp, hname, -⟩ := Survey.written_cases hv hw
    obtain ⟨i, hi⟩ := exists_new_of_mem_racks (hv.mem_racks hp)
    refine ⟨v.dc, List.mem_cons_self, i, ?_⟩
    rw [hname, hi]
  | _ => cases ha

/-- **What a unit has to do with is named after a DataCenter it has found.** This holds of passes
and advances alike, and is why it is enough to compare the names of DataCenters. -/
theorem Errand.owns_of_follows {x : Errand} {p : Program (Except OperatorError Action)}
    (hf : Program.Follows (x.work config).run h p) (ha : a ∈ h.assets) :
    ∃ k found, h.Found k found ∧ found.naming.Owns a := by
  obtain ⟨b, hb, ha⟩ := List.mem_flatMap.mp ha
  -- found before the effect, and so found in the whole history
  suffices hbefore : ∃ (h₁ : History) (k : ClusterKey) (found : DataCenter),
      h₁ <+: h ∧ h₁.Found k found ∧ found.naming.Owns a by
    obtain ⟨h₁, k, found, hprefix, hfound, hown⟩ := hbefore
    exact ⟨k, found, hprefix.subset hfound, hown⟩
  cases x with
  | pass key =>
    obtain ⟨h₁, hprefix, hd⟩ := (Program.Holds.follows (Pass.holds_run config key) hf).2 b hb
    rcases List.mem_append.mp ha with hbuilt | hvisited
    · obtain ⟨found, hfound, hown⟩ := Pass.owns_of_built hd (Option.mem_toList.mp hbuilt)
      exact ⟨h₁, key, found, hprefix, hfound, hown⟩
    · obtain ⟨found, hfound, hown⟩ := (Pass.aims_of_due hd).owns hvisited
      exact ⟨h₁, key, found, hprefix, hfound, hown⟩
  | advance key =>
    obtain ⟨h₁, hprefix, htargets, hbuilt⟩ :=
      (Program.Holds.follows (Advance.targets_run config key) hf).2 b hb
    rw [Effect.assets, hbuilt] at ha
    have hvisited : a ∈ b.effect.visited := by simpa using ha
    rcases htargets with hapart | ⟨t, -, haims⟩
    · simp [Effect.visited, hapart.members, hapart.lookedUp] at hvisited
    · obtain ⟨found, hfound, hown⟩ := haims.owns hvisited
      exact ⟨h₁, _, found, hprefix, hfound, hown⟩

/-- What a unit of one DataCenter has to do with is named after that one. -/
theorem Errand.owns_of_of {x : Errand} {p : Program (Except OperatorError Action)}
    (hf : Program.Follows (x.work config).run h p) (hof : h.Of dc) (ha : a ∈ h.assets) :
    dc.naming.Owns a := by
  obtain ⟨k, found, hfound, hown⟩ := Errand.owns_of_follows hf ha
  obtain ⟨hcluster, hdatacenter⟩ := hof k found hfound
  refine (Naming.owns_congr ?_ a).mp hown
  simp only [Naming.stem, DataCenter.naming, hcluster, hdatacenter]

namespace DataCenter

/-- **DataCenters share no name unless a piece is shifted.** Two DataCenters of different clusters
or datacenters have all names of Services, StatefulSets and pods in common if a piece of the
datacenter's name of one stands in the cluster's name of the other, and otherwise none. Where it is
none, units of the two touch nothing in common, however they run and are answered. -/
theorem apart_unless_shifted (dc dc' : DataCenter)
    (hne : (dc.spec.clusterName, dc.spec.datacenterName) ≠
      (dc'.spec.clusterName, dc'.spec.datacenterName)) :
    (dc.naming.Apart dc'.naming ↔
        ¬dc.naming.Shifted dc'.naming ∧ ¬dc'.naming.Shifted dc.naming) ∧
      (¬dc.naming.Apart dc'.naming → ∀ a, dc.naming.Owns a ↔ dc'.naming.Owns a) ∧
      (dc.naming.Apart dc'.naming → ∀ (config : Config) (x x' : Errand)
        (p p' : Program (Except OperatorError Action)) (h h' : History),
          Program.Follows (x.work config).run h p → Program.Follows (x'.work config).run h' p' →
            h.Of dc → h'.Of dc' → ∀ a ∈ h.assets, a ∉ h'.assets) := by
  have hparts : ¬(dc.naming.cluster = dc'.naming.cluster ∧
      dc.naming.datacenter = dc'.naming.datacenter) := by
    rintro ⟨hcluster, hdatacenter⟩
    exact hne (Prod.ext hcluster hdatacenter)
  refine ⟨?_, ?_, ?_⟩
  · rw [Naming.apart_iff, ne_eq, Naming.stem_eq_iff]
    simp [hparts]
  · intro hshared
    rw [Naming.apart_iff, not_not] at hshared
    exact Naming.owns_congr hshared
  · intro hapart config x x' p p' h h' hf hf' hof hof' a ha ha'
    exact hapart a (Errand.owns_of_of hf hof ha) (Errand.owns_of_of hf' hof' ha')

/-- A DataCenter of a cluster and a datacenter. -/
def called (cluster datacenter : String) : DataCenter where
  metadata := { name := some (cluster ++ "." ++ datacenter), ns := some "n" }
  spec := { clusterName := cluster, datacenterName := datacenter, replicas := 1, racks := 1 }

/-- A pass that has only begun is of the DataCenter it has read. -/
theorem of_opening (key : ClusterKey) (dc : DataCenter) : (Pass.opening key dc).Of dc := by
  rintro ⟨ns, name⟩ found hfound
  rcases List.mem_pair.mp hfound with h | h
  · cases h
    exact ⟨rfl, rfl⟩
  · cases h

/-- Two datacenters of one cluster have their names for themselves, and the passes that have begun
on them have seen to different Services. -/
theorem apart_in_cluster :
    ("c", "d") ≠ ("c", "e") ∧ (called "c" "d").naming.Apart (called "c" "e").naming ∧
      ∀ a ∈ (Pass.opening (called "c" "d").key (called "c" "d")).assets,
        a ∉ (Pass.opening (called "c" "e").key (called "c" "e")).assets := by
  have hne : ("c", "d") ≠ ("c", "e") := by decide
  obtain ⟨happart, -, hruns⟩ := apart_unless_shifted (called "c" "d") (called "c" "e") hne
  have hapart : (called "c" "d").naming.Apart (called "c" "e").naming := by
    refine happart.mpr ⟨?_, ?_⟩
    · exact Naming.not_shifted_of_no_dash (by decide)
    · exact Naming.not_shifted_of_no_dash (by decide)
  refine ⟨hne, hapart, ?_⟩
  have hbegun : ∀ dc : DataCenter, ∃ rest,
      Program.Follows (Errand.work {} (.pass dc.key)).run (Pass.opening dc.key dc) rest :=
    fun dc => ⟨_, _, rfl, _, rfl, rfl⟩
  obtain ⟨rest, hrest⟩ := hbegun (called "c" "d")
  obtain ⟨rest', hrest'⟩ := hbegun (called "c" "e")
  exact hruns hapart {} _ _ _ _ _ _ hrest hrest' (of_opening _ _) (of_opening _ _)

/-- Two DataCenters of one namespace that admission lets pass, and whose names are all the same. -/
theorem shifted_admitted :
    (called "a-b" "c").fault? none = none ∧ (called "a" "b-c").fault? none = none ∧
      (called "a-b" "c").naming.ns = (called "a" "b-c").naming.ns ∧
      ("a-b", "c") ≠ ("a", "b-c") ∧
      ¬(called "a-b" "c").naming.Apart (called "a" "b-c").naming := by
  refine ⟨by decide, by decide, rfl, by decide, ?_⟩
  rw [Naming.apart_iff]
  decide

end DataCenter

end RackOperator
