import RackOperator.Proofs.Queue.Drainers

/-!
# The steps of a queue

One lemma for each function of the protocol. Receiving, looking once more, asking for a
permit and handing one back neither start nor end a unit, and lose none: they keep what is
pending and what runs under every key (`State.Keeps`). A submission puts a unit behind those
of its key, a start takes the first one of a key, and an end leaves the key idle. All of
them keep the queue orderly.
-/

namespace RackOperator.WorkQueue.State

variable {p : Nat} {q : State} {id : Nat} {d d' : Drainer}

/-! ## Receiving -/

/-- A drainer without a permit takes something else into its hands, and no ticket is lost in doing
so. -/
theorem turn_spec (hq : q.Orderly p) (hb : q.Busy) (hd : q.drainer? d.id = some d)
    (hid : d'.id = d.id) (hkey : d'.key = d.key)
    (hpermit : d'.stage.hasPermit = d.stage.hasPermit)
    (hwaiting : d'.stage.isWaiting = d.stage.isWaiting) (hp : d'.pending = d.pending)
    (hr : d'.stage.running? = d.stage.running?) :
    (q.put d').Orderly p ∧ (q.put d').Busy ∧ q.Keeps (q.put d') := by
  exact ⟨hq.put hd d' hid hkey (by rw [hpermit]) hq.inLine (mem_line_put hq hd d' hwaiting), hb,
    keeps_put hq hd d' hid hp hr q.free q.line⟩

/-- Receiving moves a ticket from the channel into the drainer's hands. To those who wait for the
outcome nothing has changed: it is pending as before, and as the first of its key. -/
theorem receive_spec (hq : q.Orderly p) (hb : q.Busy) (id : Nat) :
    (q.receive id).Orderly p ∧ (q.receive id).Busy ∧ q.Keeps (q.receive id) := by
  unfold receive
  cases hd : q.drainer? id with
  | none =>
    rw [update_eq_self (fun d hd' => by rw [hd] at hd'; cases hd') hq.ids]
    exact ⟨hq, hb, .refl q⟩
  | some d =>
    obtain rfl := drainer?_id hd
    obtain ⟨id, key, channel, stage⟩ := d
    cases stage with
    | idle =>
      -- A drainer that is idle with an empty channel goes on to the last look.
      cases channel with
      | nil =>
        rw [update_eq_put hq.ids hd rfl]
        exact turn_spec hq hb hd rfl rfl rfl rfl rfl rfl
      | cons t rest =>
        rw [update_eq_put hq.ids hd rfl]
        exact turn_spec hq hb hd rfl rfl rfl rfl rfl rfl
    | _ =>
      rw [update_eq_put hq.ids hd rfl]
      exact turn_spec hq hb hd rfl rfl rfl rfl rfl rfl

/-- A drainer that looks once more goes only if nothing has come in for it. -/
theorem recheck_spec (hq : q.Orderly p) (hb : q.Busy) (id : Nat) :
    (q.recheck id).Orderly p ∧ (q.recheck id).Busy ∧ q.Keeps (q.recheck id) := by
  unfold recheck
  cases hd : q.drainer? id with
  | none => exact ⟨hq, hb, .refl q⟩
  | some d =>
    obtain rfl := drainer?_id hd
    obtain ⟨id, key, channel, stage⟩ := d
    cases stage with
    | emptyHanded =>
      cases channel with
      | nil => exact ⟨hq.without hd rfl, hb, keeps_without hq hd rfl rfl⟩
      | cons t rest =>
        dsimp only
        rw [update_eq_put hq.ids hd rfl]
        exact turn_spec hq hb hd rfl rfl rfl rfl rfl rfl
    | _ => exact ⟨hq, hb, .refl q⟩

/-! ## Permits -/

theorem not_inLine (hq : q.Orderly p) (hd : q.drainer? d.id = some d)
    (hs : d.stage.isWaiting = false) : d.id ∉ q.line := by
  intro hmem
  obtain ⟨a, ha, hw⟩ := (hq.line d.id).mp hmem
  rw [hd] at ha
  cases ha
  rw [hs] at hw
  cases hw

theorem enter_eq (hq : q.Orderly p) (hd : q.drainer? d.id = some d) (stage : Stage) :
    q.enter d.id stage = q.put { d with stage } :=
  update_eq_put hq.ids hd rfl

theorem request_eq_permitted (hq : q.Orderly p) (hd : q.drainer? d.id = some d) {t : Ticket}
    (hs : d.stage = .holding t) (hfree : 0 < q.free) :
    q.request d.id = { q.put { d with stage := .permitted t } with free := q.free - 1 } := by
  obtain ⟨id, key, channel, stage⟩ := d
  subst hs
  unfold request
  rw [hd]
  dsimp only
  rw [if_pos hfree]
  exact congrArg (fun q' : State => { q' with free := q.free - 1 }) (enter_eq hq hd _)

/-- Where none is free the drainer stands in line, behind those who came before. -/
theorem request_eq_waiting (hq : q.Orderly p) (hd : q.drainer? d.id = some d) {t : Ticket}
    (hs : d.stage = .holding t) (hfree : q.free = 0) :
    q.request d.id = { q.put { d with stage := .waiting t } with line := q.line ++ [d.id] } := by
  obtain ⟨id, key, channel, stage⟩ := d
  subst hs
  unfold request
  rw [hd]
  dsimp only
  rw [if_neg (by omega)]
  exact congrArg (fun q' : State => { q' with line := q.line ++ [id] }) (enter_eq hq hd _)

theorem start_eq (hq : q.Orderly p) (hd : q.drainer? d.id = some d) {t : Ticket}
    (hs : d.stage = .permitted t) : q.start d.id = q.put { d with stage := .running t } := by
  obtain ⟨id, key, channel, stage⟩ := d
  subst hs
  exact update_eq_put hq.ids hd rfl

theorem conclude_eq (hq : q.Orderly p) (hd : q.drainer? d.id = some d) {t : Ticket}
    (hs : d.stage = .running t) : q.conclude d.id = q.put { d with stage := .ended t } := by
  obtain ⟨id, key, channel, stage⟩ := d
  subst hs
  exact update_eq_put hq.ids hd rfl

/-- With nobody in line a permit that is given back is free again. -/
theorem release_eq_nil (hq : q.Orderly p) (hd : q.drainer? d.id = some d) {t : Ticket}
    (hs : d.stage = .ended t) (hl : q.line = []) :
    q.release d.id = { q.put { d with stage := .idle } with free := q.free + 1 } := by
  obtain ⟨id, key, channel, stage⟩ := d
  subst hs
  unfold release
  rw [hd]
  dsimp only
  have hput : (q.put { id, key, channel, stage := .idle }).line = [] := hl
  rw [enter_eq hq hd, hput]
  rfl

/-- Asking for a permit keeps the count of permits and the order of the line. Whoever asks gets a
free one at once, or goes to the end of the line. -/
theorem request_spec (hq : q.Orderly p) (hb : q.Busy) (id : Nat) :
    (q.request id).Orderly p ∧ (q.request id).Busy ∧ q.Keeps (q.request id) := by
  cases hd : q.drainer? id with
  | none =>
    unfold request
    rw [hd]
    exact ⟨hq, hb, .refl q⟩
  | some d =>
    obtain rfl := drainer?_id hd
    cases hs : d.stage with
    | holding t =>
      have hp : d.stage.hasPermit = false := by rw [hs]; rfl
      have hw : d.stage.isWaiting = false := by rw [hs]; rfl
      have hpending : ∀ stage, stage.unstarted? = some t →
          Drainer.pending { d with stage } = d.pending := by
        intro stage hstage
        unfold Drainer.pending
        rw [hs, hstage]
        rfl
      have hrunning : d.stage.running? = none := by rw [hs]; rfl
      -- A permit is taken if one is free; otherwise the drainer joins the line behind the others.
      by_cases hfree : 0 < q.free
      · rw [request_eq_permitted hq hd hs hfree]
        let d' : Drainer := { d with stage := .permitted t }
        refine ⟨hq.put hd d' rfl rfl ?_ hq.inLine (mem_line_put hq hd d' hw.symm), fun hline => ?_,
          keeps_put hq hd d' rfl (hpending _ rfl) hrunning.symm (q.free - 1) q.line⟩
        · rw [hp]
          show q.free - 1 + 1 = q.free + 0
          omega
        · have h0 := hb hline
          omega
      · have h0 : q.free = 0 := by omega
        rw [request_eq_waiting hq hd hs h0]
        let d' : Drainer := { d with stage := .waiting t }
        refine ⟨hq.put hd d' rfl rfl ?_ ?_ fun j => ?_, fun _ => h0,
          keeps_put hq hd d' rfl (hpending _ rfl) hrunning.symm q.free (q.line ++ [d.id])⟩
        · rw [hp]
          rfl
        · exact List.nodup_append'.mpr ⟨hq.inLine, List.nodup_singleton _,
            List.disjoint_singleton.mpr (not_inLine hq hd hw)⟩
        · rw [List.mem_append, List.mem_singleton]
          by_cases hj : j = d.id
          · rw [if_pos hj]
            exact ⟨fun _ => rfl, fun _ => .inr hj⟩
          · rw [if_neg hj]
            exact ⟨fun h => h.resolve_right hj, .inl⟩
    | _ =>
      obtain ⟨id, key, channel, stage⟩ := d
      subst hs
      unfold request
      rw [hd]
      exact ⟨hq, hb, .refl q⟩

/-- The first unit of a key starts: it leaves what waits for the key and is what runs for it. -/
theorem start_spec (hq : q.Orderly p) (hb : q.Busy) (hd : q.drainer? d.id = some d) {t : Ticket}
    (hs : d.stage = .permitted t) :
    (q.start d.id).Orderly p ∧ (q.start d.id).Busy ∧
      (∀ key, q.pending key = if key = d.key then t :: (q.start d.id).pending key
        else (q.start d.id).pending key) ∧
      ∀ key, (q.start d.id).running? key = if key = d.key then some t else q.running? key := by
  rw [start_eq hq hd hs]
  have hp : d.stage.hasPermit = true := by rw [hs]; rfl
  have hw : d.stage.isWaiting = false := by rw [hs]; rfl
  refine ⟨hq.put hd { d with stage := .running t } rfl rfl (by rw [hp]; rfl) hq.inLine
    (mem_line_put hq hd _ hw.symm), hb, fun key => ?_,
    running?_put hq hd { d with stage := .running t } rfl q.free q.line⟩
  have hput : (q.put { d with stage := .running t }).pending key =
      if key = d.key then d.channel else q.pending key :=
    pending_put hq hd { d with stage := .running t } rfl q.free q.line key
  rw [hput]
  by_cases hk : key = d.key
  · rw [if_pos hk, if_pos hk, hk, pending_of_drainer? hq hd]
    unfold Drainer.pending
    rw [hs]
    rfl
  · rw [if_neg hk, if_neg hk]

/-- The unit of a key ends, and with that nothing runs for the key. -/
theorem conclude_spec (hq : q.Orderly p) (hb : q.Busy) (hd : q.drainer? d.id = some d)
    {t : Ticket} (hs : d.stage = .running t) :
    (q.conclude d.id).Orderly p ∧ (q.conclude d.id).Busy ∧
      (∀ key, (q.conclude d.id).pending key = q.pending key) ∧
      ∀ key, (q.conclude d.id).running? key = if key = d.key then none else q.running? key := by
  rw [conclude_eq hq hd hs]
  have hp : d.stage.hasPermit = true := by rw [hs]; rfl
  have hw : d.stage.isWaiting = false := by rw [hs]; rfl
  have hpending : Drainer.pending { d with stage := .ended t } = d.pending := by
    unfold Drainer.pending
    rw [hs]
    rfl
  exact ⟨hq.put hd { d with stage := .ended t } rfl rfl (by rw [hp]; rfl) hq.inLine
    (mem_line_put hq hd _ hw.symm), hb,
    pending_put_same hq hd { d with stage := .ended t } rfl hpending q.free q.line,
    running?_put hq hd { d with stage := .ended t } rfl q.free q.line⟩

/-- With somebody in line it goes to the first, who therefore need not ask again. The permit is
never free in between, so nobody who comes later can take it. -/
theorem release_eq_cons (hq : q.Orderly p) (hd : q.drainer? d.id = some d) {t : Ticket}
    (hs : d.stage = .ended t) {first : Nat} {rest : List Nat} (hl : q.line = first :: rest) :
    ∃ f t', q.drainer? f.id = some f ∧ f.id = first ∧ f.id ≠ d.id ∧ f.stage = .waiting t' ∧
      q.release d.id =
        { (q.put { d with stage := .idle }).put { f with stage := .permitted t' } with
          line := rest } := by
  have hmem : first ∈ q.line := by
    rw [hl]
    exact List.mem_cons_self
  obtain ⟨f, hf, hw⟩ := (hq.line first).mp hmem
  obtain rfl := drainer?_id hf
  obtain ⟨t', ht'⟩ : ∃ t', f.stage = .waiting t' := by
    cases hstage : f.stage with
    | waiting t' => exact ⟨t', rfl⟩
    | _ => rw [hstage] at hw; cases hw
  -- The one that gives its permit back does not wait, so it is not the first in line.
  have hne : f.id ≠ d.id := by
    intro he
    rw [he, hd] at hf
    cases hf
    rw [hs] at ht'
    cases ht'
  refine ⟨f, t', hf, rfl, hne, ht', ?_⟩
  obtain ⟨id, key, channel, stage⟩ := d
  subst hs
  unfold release
  rw [hd]
  dsimp only
  have hput : (q.put { id, key, channel, stage := .idle }).line = f.id :: rest := hl
  rw [enter_eq hq hd, hput]
  dsimp only
  refine congrArg (fun q' : State => { q' with line := rest }) ?_
  have hids : ((q.put { id, key, channel, stage := .idle }).drainers.map (·.id)).Nodup := by
    rw [ids_put]
    exact hq.ids
  have hf' : (q.put { id, key, channel, stage := .idle }).drainer? f.id = some f := by
    rw [drainer?_put hd ⟨id, key, channel, .idle⟩ rfl, if_neg hne]
    exact hf
  obtain ⟨id', key', channel', stage'⟩ := f
  subst ht'
  exact update_eq_put hids hf' rfl

/-- The first in line gets a free permit, and the line is as short by one as the permits are. -/
theorem granted (hq : q.Orderly p) {f : Drainer} {t : Ticket} {rest : List Nat} {free : Nat}
    (hf : q.drainer? f.id = some f) (hs : f.stage = .waiting t) (hl : q.line = f.id :: rest)
    (hfree : q.free = free + 1) :
    Orderly p { q.put { f with stage := .permitted t } with free, line := rest } ∧
      q.Keeps { q.put { f with stage := .permitted t } with free, line := rest } := by
  have hp : f.stage.hasPermit = false := by rw [hs]; rfl
  have hrunning : f.stage.running? = none := by rw [hs]; rfl
  have hpending : Drainer.pending { f with stage := .permitted t } = f.pending := by
    unfold Drainer.pending
    rw [hs]
    rfl
  have hnd := hq.inLine
  rw [hl, List.nodup_cons] at hnd
  refine ⟨hq.put hf { f with stage := .permitted t } rfl rfl (by rw [hp, hfree]; rfl) hnd.2
    fun j => ?_,
    keeps_put hq hf { f with stage := .permitted t } rfl hpending hrunning.symm free rest⟩
  rw [hl]
  -- The one granted leaves the line; it stood in it once.
  by_cases hj : j = f.id
  · rw [if_pos hj, hj]
    exact ⟨fun h => absurd h hnd.1, fun h => by cases h⟩
  · rw [if_neg hj, List.mem_cons]
    exact ⟨.inr, fun h => h.resolve_left hj⟩

/-- Giving a permit back keeps every ticket where it is. It goes to the next in line or becomes
free; the drainer that had it looks for another unit. -/
theorem release_spec (hq : q.Orderly p) (hb : q.Busy) (id : Nat) :
    (q.release id).Orderly p ∧ (q.release id).Busy ∧ q.Keeps (q.release id) := by
  cases hd : q.drainer? id with
  | none =>
    unfold release
    rw [hd]
    exact ⟨hq, hb, .refl q⟩
  | some d =>
    obtain rfl := drainer?_id hd
    cases hs : d.stage with
    | ended t =>
      have hp : d.stage.hasPermit = true := by rw [hs]; rfl
      have hw : d.stage.isWaiting = false := by rw [hs]; rfl
      have hpending : Drainer.pending { d with stage := .idle } = d.pending := by
        unfold Drainer.pending
        rw [hs]
        rfl
      have hrunning : d.stage.running? = none := by rw [hs]; rfl
      -- the permit is free for a moment
      have hput : Orderly p { q.put { d with stage := .idle } with free := q.free + 1 } :=
        hq.put hd { d with stage := .idle } rfl rfl (by rw [hp]; rfl) hq.inLine
          (mem_line_put hq hd _ hw.symm)
      have hkeep : q.Keeps { q.put { d with stage := .idle } with free := q.free + 1 } :=
        keeps_put hq hd { d with stage := .idle } rfl hpending hrunning.symm (q.free + 1) q.line
      cases hl : q.line with
      | nil =>
        rw [release_eq_nil hq hd hs hl]
        exact ⟨hput, fun hne => absurd hl hne, hkeep⟩
      | cons first rest =>
        obtain ⟨f, t', hf, rfl, hne, hstage, he⟩ := release_eq_cons hq hd hs hl
        rw [he]
        have hf₁ : drainer? { q.put { d with stage := .idle } with free := q.free + 1 } f.id =
            some f := by
          refine (drainer?_put hd { d with stage := .idle } rfl f.id).trans ?_
          rw [if_neg hne]
          exact hf
        obtain ⟨hgrant, hgranted⟩ := granted hput hf₁ hstage hl rfl
        exact ⟨hgrant, fun _ => hb (by rw [hl]; simp), hkeep.trans hgranted⟩
    | _ =>
      obtain ⟨id, key, channel, stage⟩ := d
      subst hs
      unfold release
      rw [hd]
      exact ⟨hq, hb, .refl q⟩

/-! ## Submitting -/

/-- A unit is put behind those of its key, with the drainer of the key or with a new one. Nobody
else's place changes, be it in the line or in a channel. -/
theorem submit_spec (hq : q.Orderly p) (hb : q.Busy) (key : ClusterKey) (t : Ticket) :
    (q.submit key t).Orderly p ∧ (q.submit key t).Busy ∧
      (∀ key', (q.submit key t).pending key' =
        if key' = key then q.pending key ++ [t] else q.pending key') ∧
      ∀ key', (q.submit key t).running? key' = q.running? key' := by
  unfold submit
  -- A key that nobody serves gets a drainer, whose first ticket this is; otherwise it goes into the
  -- channel.
  cases hr : q.registered.find? key with
  | none =>
    refine ⟨hq.join hr t, hb, fun key' => ?_, fun key' => ?_⟩
    · show (q.join key t).pending key' = _
      unfold pending
      rw [serving_join hq]
      by_cases hk : key' = key
      · rw [if_pos hk, if_pos hk]
        unfold serving
        rw [hr]
        rfl
      · rw [if_neg hk, if_neg hk]
    · show (q.join key t).running? key' = _
      unfold running?
      rw [serving_join hq]
      by_cases hk : key' = key
      · rw [if_pos hk, hk]
        unfold serving
        rw [hr]
        rfl
      · rw [if_neg hk]
  | some id =>
    obtain ⟨d, hd, rfl⟩ := (hq.registered key id).mp hr
    obtain rfl := drainer?_id hd
    dsimp only
    rw [update_eq_put hq.ids hd rfl]
    let d' : Drainer := { d with channel := d.channel ++ [t] }
    have hpending : d'.pending = d.pending ++ [t] := (List.append_assoc ..).symm
    refine ⟨hq.put hd d' rfl rfl rfl hq.inLine (mem_line_put hq hd d' rfl), hb, fun key' => ?_,
      fun key' => ?_⟩
    · refine (pending_put hq hd d' rfl q.free q.line key').trans ?_
      rw [hpending, pending_of_drainer? hq hd]
    · refine (running?_put hq hd d' rfl q.free q.line key').trans ?_
      by_cases hk : key' = d.key
      · rw [if_pos hk, hk, running?_of_drainer? hq hd]
      · rw [if_neg hk]

end RackOperator.WorkQueue.State
