import RackOperator.Sidecar.Client
import RackOperator.Proofs.Maps
import RackOperator.Proofs.Names
import Mathlib.Data.List.Induction

/-!
# What a cached client was built for

The cache keeps clients by host, and what a client is built from is more than a host: the pod it
speaks of and the port it connects to come from a member. So a client handed out is told by the
member it was built for, the `builder?` of the host: the first member of that host a client was
asked for since the last time the host was dropped (`find?_afterAll`).

Such a client is the one `Client.forMember` would build exactly when its builder has the pod and the
port of the member it is handed out for (`clientFor_afterAll`). The host is always right. A port
that changed while a client was kept is not seen until the host is dropped
(`clientFor_stale_port`).
-/

namespace RackOperator.Sidecar

open Text

namespace Client

variable {m m' : Member}

/-- Where the sidecar of a member listens. -/
def urlOf (m : Member) : String := "http://" ++ m.host ++ ":" ++ Decimal.text m.sidecarPort

/-- The client that talks to a member. -/
def ofMember (m : Member) : Client := ⟨m.name, urlOf m⟩

theorem startsWith_urlOf (m : Member) : (urlOf m).startsWith "http://" = true := by
  simp [urlOf, String.append_assoc]

/-- A client can be built for every member, since the URL made for it is one that is accepted. -/
theorem forMember_eq (m : Member) : forMember m = .ok (ofMember m) := by
  have hscheme := startsWith_urlOf m
  unfold urlOf at hscheme
  simp [forMember, new, ofMember, urlOf, hscheme]

/-- Behind one host it is the pod and the port that tell clients apart. -/
theorem ofMember_inj (hhost : m.host = m'.host) :
    ofMember m = ofMember m' ↔ m.name = m'.name ∧ m.sidecarPort = m'.sidecarPort := by
  constructor
  · intro h
    have hurl : urlOf m = urlOf m' := congrArg Client.baseUrl h
    unfold urlOf at hurl
    rw [hhost, String.append_right_inj] at hurl
    exact ⟨congrArg Client.pod h, Decimal.text_injective hurl⟩
  · rintro ⟨hname, hport⟩
    simp [ofMember, urlOf, hname, hhost, hport]

end Client

/-- What is asked of a cache: a client for a member, or that the member's host be dropped. -/
inductive ClientUse
  | client (m : Member)
  | invalidate (m : Member)
deriving DecidableEq, Repr

namespace ClientUse

/-- The member a use is about. -/
def member : ClientUse → Member
  | .client m => m
  | .invalidate m => m

/-- The member the client of a host was built for, one use later. -/
def rebuild (host : String) (b : Option Member) : ClientUse → Option Member
  | .client m => if m.host = host then b <|> some m else b
  | .invalidate m => if m.host = host then none else b

end ClientUse

namespace ClientCache

/-- The cache after one use of it. -/
def after (c : ClientCache) : ClientUse → ClientCache
  | .client m => (c.clientFor m).2
  | .invalidate m => c.invalidate m

/-- The cache after uses of it, from the empty one on. -/
def afterAll (uses : List ClientUse) : ClientCache := uses.foldl after {}

/-- The member the client kept for a host was built for. -/
def builder? (host : String) (uses : List ClientUse) : Option Member :=
  uses.foldl (ClientUse.rebuild host) none

variable {host : String} {uses : List ClientUse} {m b : Member}

theorem builder?_concat (host : String) (uses : List ClientUse) (u : ClientUse) :
    builder? host (uses ++ [u]) = ClientUse.rebuild host (builder? host uses) u := by
  simp [builder?]

theorem afterAll_concat (uses : List ClientUse) (u : ClientUse) :
    afterAll (uses ++ [u]) = (afterAll uses).after u := by
  simp [afterAll]

/-- The builder of a host has that host, and a client was asked for it. So whoever is answered with
a client that was kept is answered with one built for the same host, if not for the same port. -/
theorem builder?_mem (h : builder? host uses = some b) :
    .client b ∈ uses ∧ b.host = host := by
  induction uses using List.reverseRecOn with
  | nil => cases h
  | append_singleton uses u ih =>
    have hrest : builder? host uses = some b → .client b ∈ uses ++ [u] ∧ b.host = host := by
      intro hb
      exact ⟨List.mem_append_left _ (ih hb).1, (ih hb).2⟩
    rw [builder?_concat] at h
    cases u with
    | client m =>
      simp only [ClientUse.rebuild] at h
      split at h
      next hhost =>
        cases hb : builder? host uses with
        | some b' => exact hrest (by simpa [hb] using h)
        | none =>
          -- nothing was kept for the host: the client is built now
          obtain rfl : m = b := by simpa [hb] using h
          exact ⟨by simp, hhost⟩
      next => exact hrest h
    | invalidate m =>
      simp only [ClientUse.rebuild] at h
      split at h
      next => cases h
      next => exact hrest h

/-- One use does to the clients kept what it does to their builders: it puts one in, takes one out
or leaves them. From this the clients after a history are read off the history alone. -/
theorem find?_after {c : ClientCache} {builders : String → Option Member}
    (h : ∀ host, c.find? host = (builders host).map Client.ofMember) (u : ClientUse)
    (host : String) :
    (c.after u).find? host = (ClientUse.rebuild host (builders host) u).map Client.ofMember := by
  cases u with
  | client m =>
    have hm := h m.host
    unfold after clientFor ClientUse.rebuild
    cases hb : builders m.host with
    | some b =>
      -- a client is kept for the host: it stays
      rw [hb, Option.map_some] at hm
      simp only [hm]
      split
      next hhost => subst hhost; simp [hb, hm]
      next => exact h host
    | none =>
      rw [hb, Option.map_none] at hm
      simp only [hm, Client.forMember_eq, SortedMap.find?_insert]
      split
      next hhost => subst hhost; simp [hb]
      next => exact h host
  | invalidate m =>
    simp only [after, invalidate, ClientUse.rebuild, SortedMap.find?_erase, eq_comm (a := host)]
    split
    next => rfl
    next => exact h host

/-- The client kept for a host is that of the host's builder. The induction is on the uses, from the
first. -/
theorem find?_afterAll (uses : List ClientUse) (host : String) :
    (afterAll uses).find? host = (builder? host uses).map Client.ofMember := by
  induction uses using List.reverseRecOn generalizing host with
  | nil => rfl
  | append_singleton uses u ih =>
    rw [afterAll_concat, builder?_concat]
    exact find?_after ih u host

/-- What is handed out for a member: the client of its host's builder, or else one of its own. -/
theorem clientFor_eq (uses : List ClientUse) (m : Member) :
    ((afterAll uses).clientFor m).1 =
      .ok (Client.ofMember ((builder? m.host uses).getD m)) := by
  have hfind := find?_afterAll uses m.host
  unfold clientFor
  cases hb : builder? m.host uses with
  | some b =>
    rw [hb, Option.map_some] at hfind
    simp [hfind]
  | none =>
    rw [hb, Option.map_none] at hfind
    simp [hfind, Client.forMember_eq]

/-- Members of a DataCenter that keeps its name have their hosts for themselves. -/
theorem name_eq_of_host {n n' : Naming} {r r' : Rack} {a a' : Int} (hstem : n'.stem = n.stem)
    (hns : n'.ns = n.ns) (h : (n'.member r' a').host = (n.member r a).host) :
    (n'.member r' a').name = (n.member r a).name := by
  simp only [Naming.member, Naming.podHost, hstem, hns, String.append_assoc] at h ⊢
  exact String.append_left_inj _ |>.mp h

/-- **A cached client is as good as its builder.** Whatever clients were asked for and dropped
before, a client is handed out for a member, and it is the one built for the first member of that
host since the host was last dropped. It connects to the member's host, and it is the client a fresh
one would be exactly when that first member had the same pod and the same port. Where all uses are
about members of DataCenters of one name and namespace, the pod is the same, and all depends on the
port. -/
theorem clientFor_afterAll (uses : List ClientUse) (m : Member) :
    let answer := ((afterAll uses).clientFor m).1
    let b := (builder? m.host uses).getD m
    answer = Client.forMember b ∧
      (∃ client, answer = .ok client ∧
        client.baseUrl = "http://" ++ m.host ++ ":" ++ Decimal.text b.sidecarPort) ∧
      (answer = Client.forMember m ↔ b.name = m.name ∧ b.sidecarPort = m.sidecarPort) ∧
      ((∃ n r a, m = Naming.member n r a ∧ ∀ u ∈ uses, ∃ n' r' a',
          u.member = Naming.member n' r' a' ∧ n'.stem = n.stem ∧ n'.ns = n.ns) →
        (answer = Client.forMember m ↔ b.sidecarPort = m.sidecarPort)) := by
  intro answer b
  have hanswer : answer = .ok (Client.ofMember b) := clientFor_eq uses m
  have hbuilder : b = m ∨ .client b ∈ uses ∧ b.host = m.host := by
    cases hb : builder? m.host uses with
    | none => exact .inl (by simp [b, hb])
    | some b' =>
      obtain rfl : b = b' := by simp [b, hb]
      exact .inr (builder?_mem hb)
  have hhost : b.host = m.host := by
    rcases hbuilder with hb | ⟨-, hb⟩
    · rw [hb]
    · exact hb
  have hsame : answer = Client.forMember m ↔ b.name = m.name ∧ b.sidecarPort = m.sidecarPort := by
    rw [hanswer, Client.forMember_eq, Except.ok.injEq]
    exact Client.ofMember_inj hhost
  refine ⟨hanswer.trans (Client.forMember_eq b).symm, ⟨_, hanswer, ?_⟩, hsame, ?_⟩
  · rw [← hhost]
    rfl
  · rintro ⟨n, r, a, hm, huses⟩
    -- the builder is a member of the same DataCenter, so its pod is told by the host
    have hname : b.name = m.name := by
      rcases hbuilder with hb | ⟨hb, -⟩
      · rw [hb]
      · obtain ⟨n', r', a', hmember, hstem, hns⟩ := huses _ hb
        rw [show b = n'.member r' a' from hmember, hm] at hhost ⊢
        exact name_eq_of_host hstem hns hhost
    rw [hsame]
    simp [hname]

/-- A DataCenter whose sidecars listen at a port. -/
def listening (port : Int) : Naming := ⟨"c1", "dc1", "default", port⟩

/-- The first member of it. -/
def firstMember (port : Int) : Member := (listening port).member (.new 0) 0

/-- A host that was dropped is connected to at the member's own port. -/
theorem clientFor_after_drop :
    ((afterAll [.client (firstMember 8080), .invalidate (firstMember 9090)]).clientFor
      (firstMember 9090)).1 = Client.forMember (firstMember 9090) := by
  obtain ⟨-, -, -, hport⟩ := clientFor_afterAll
    [.client (firstMember 8080), .invalidate (firstMember 9090)] (firstMember 9090)
  refine (hport ⟨listening 9090, .new 0, 0, rfl, ?_⟩).mpr ?_
  · intro u hu
    rcases List.mem_pair.mp hu with rfl | rfl
    · exact ⟨listening 8080, .new 0, 0, rfl, rfl, rfl⟩
    · exact ⟨listening 9090, .new 0, 0, rfl, rfl, rfl⟩
  · simp [builder?, ClientUse.rebuild]

/-- A host that was not dropped is still connected to at the port its sidecar had before. -/
theorem clientFor_stale_port :
    ((afterAll [.client (firstMember 8080)]).clientFor (firstMember 9090)).1 =
        Client.forMember (firstMember 8080) ∧
      ((afterAll [.client (firstMember 8080)]).clientFor (firstMember 9090)).1 ≠
        Client.forMember (firstMember 9090) := by
  have hhost : (firstMember 8080).host = (firstMember 9090).host := rfl
  have hbuilder : builder? (firstMember 9090).host [.client (firstMember 8080)] =
      some (firstMember 8080) := by
    simp [builder?, ClientUse.rebuild, hhost]
  have hanswer := clientFor_eq [.client (firstMember 8080)] (firstMember 9090)
  rw [hbuilder, Option.getD_some] at hanswer
  rw [hanswer, Client.forMember_eq, Client.forMember_eq]
  refine ⟨rfl, fun hsame => ?_⟩
  have hports : (8080 : Int) = 9090 :=
    ((Client.ofMember_inj hhost).mp (Except.ok.inj hsame)).2
  omega

end ClientCache

end RackOperator.Sidecar
