import RackOperator.Proofs.Queue.Turns
import Mathlib.Algebra.Ring.Nat

/-!
# How far a queue has to go

A unit passes through the hands of a drainer in one direction only: out of the channel, in
line, with a permit, running, ended; and a drainer with nothing left goes. `State.weight`
adds up what is ahead of each drainer and each unit in a channel. A step that changes
anything makes it less, but a submission.
-/

namespace RackOperator.WorkQueue

/-- Stages until a drainer is gone or receives again. -/
def Stage.ahead : Stage → Nat
  | .holding _ => 7
  | .waiting _ => 6
  | .permitted _ => 5
  | .running _ => 4
  | .ended _ => 3
  | .idle => 2
  | .emptyHanded => 1

/-- What is ahead of a drainer. -/
def Drainer.weight (d : Drainer) : Nat := 7 * d.channel.length + d.stage.ahead

namespace State

/-- What is ahead of all drainers. -/
def weight (q : State) : Nat := (q.drainers.map Drainer.weight).sum

variable {p : Nat} {q : State} {id : Nat} {d d' : Drainer}

/-- A drainer that takes the place of another changes the weight of the queue by the difference of
theirs. The equation is written without subtraction. -/
theorem weight_put (hids : (q.drainers.map (·.id)).Nodup) (hd : q.drainer? d.id = some d)
    (d' : Drainer) (hid : d'.id = d.id) :
    (q.put d').weight + d.weight = q.weight + d'.weight := by
  obtain ⟨l₁, l₂, hsplit, hput, -⟩ := exists_split hids hd hid
  unfold weight
  rw [hput, hsplit, List.map_append, List.map_append, List.sum_append, List.sum_append,
    List.map_cons, List.map_cons, List.sum_cons, List.sum_cons]
  omega

/-- A lighter drainer in the place of another makes the queue lighter. -/
theorem weight_put_lt (hids : (q.drainers.map (·.id)).Nodup) (hd : q.drainer? d.id = some d)
    (d' : Drainer) (hid : d'.id = d.id) (hlt : d'.weight < d.weight) :
    (q.put d').weight < q.weight := by
  have h := weight_put hids hd d' hid
  omega

theorem weight_without_lt (hids : (q.drainers.map (·.id)).Nodup)
    (hd : q.drainer? d.id = some d) (hs : d.stage = .emptyHanded) :
    (q.without d).weight < q.weight := by
  obtain ⟨l₁, l₂, hsplit, -, hwithout⟩ := exists_split hids hd (rfl : d.id = d.id)
  have hpos : 0 < d.weight := by
    unfold Drainer.weight
    rw [hs]
    exact Nat.succ_pos _
  unfold weight
  rw [hwithout, hsplit, List.map_append, List.map_append, List.sum_append, List.sum_append,
    List.map_cons, List.sum_cons]
  omega

/-- A drainer goes on to a stage nearer to the end, with the same tickets still in its channel, so
the queue is lighter. -/
theorem enter_lt (hids : (q.drainers.map (·.id)).Nodup) (hd : q.drainer? d.id = some d)
    (stage : Stage) (hlt : stage.ahead < d.stage.ahead) :
    (q.put { d with stage }).weight < q.weight :=
  weight_put_lt hids hd { d with stage } rfl (Nat.add_lt_add_left hlt _)

/-! ## Receiving -/

/-- A drainer that takes a ticket out of its channel, or finds the channel empty, is nearer to its
end. -/
theorem receive_lt (hq : q.Orderly p) (hd : q.drainer? d.id = some d) (hs : d.stage = .idle) :
    (q.receive d.id).weight < q.weight := by
  obtain ⟨id, key, channel, stage⟩ := d
  subst hs
  unfold receive
  rw [update_eq_put hq.ids hd (by cases channel <;> rfl)]
  cases channel with
  | nil => exact enter_lt hq.ids hd .emptyHanded (by simp [Stage.ahead])
  | cons t rest =>
    refine weight_put_lt hq.ids hd ⟨id, key, rest, .holding t⟩ rfl ?_
    show 7 * rest.length + 7 < 7 * (rest.length + 1) + 2
    omega

theorem receive_eq_self (hq : q.Orderly p)
    (h : ∀ d, q.drainer? id = some d → d.stage ≠ .idle) : q.receive id = q := by
  refine update_eq_self (fun d hd => ?_) hq.ids
  have hs := h d hd
  obtain ⟨_, _, channel, stage⟩ := d
  cases stage with
  | idle => exact absurd rfl hs
  | _ => rfl

/-- Receiving brings the queue nearer to its end, or changes nothing: nobody but an idle drainer
receives. -/
theorem receive_cases (hq : q.Orderly p) (id : Nat) :
    (q.receive id).weight < q.weight ∨ q.receive id = q := by
  by_cases h : ∃ d, q.drainer? id = some d ∧ d.stage = .idle
  · obtain ⟨d, hd, hs⟩ := h
    obtain rfl := drainer?_id hd
    exact .inl (receive_lt hq hd hs)
  · exact .inr (receive_eq_self hq fun d hd hs => h ⟨d, hd, hs⟩)

/-- A drainer that looks once more before it stops goes, or takes up what has come in meanwhile. -/
theorem recheck_lt (hq : q.Orderly p) (hd : q.drainer? d.id = some d)
    (hs : d.stage = .emptyHanded) : (q.recheck d.id).weight < q.weight := by
  have hs' := hs
  obtain ⟨id, key, channel, stage⟩ := d
  subst hs
  unfold recheck
  rw [hd]
  cases channel with
  | nil => exact weight_without_lt hq.ids hd hs'
  | cons t rest =>
    dsimp only
    rw [update_eq_put hq.ids hd rfl]
    refine weight_put_lt hq.ids hd ⟨id, key, rest, .holding t⟩ rfl ?_
    show 7 * rest.length + 7 < 7 * (rest.length + 1) + 1
    omega

theorem recheck_eq_self (h : ∀ d, q.drainer? id = some d → d.stage ≠ .emptyHanded) :
    q.recheck id = q := by
  unfold recheck
  split
  next hd => exact absurd rfl (h _ hd)
  next => rfl

/-- Looking once more brings the queue nearer to its end, or changes nothing. -/
theorem recheck_cases (hq : q.Orderly p) (id : Nat) :
    (q.recheck id).weight < q.weight ∨ q.recheck id = q := by
  by_cases h : ∃ d, q.drainer? id = some d ∧ d.stage = .emptyHanded
  · obtain ⟨d, hd, hs⟩ := h
    obtain rfl := drainer?_id hd
    exact .inl (recheck_lt hq hd hs)
  · exact .inr (recheck_eq_self fun d hd hs => h ⟨d, hd, hs⟩)

/-! ## Permits -/

/-- A drainer that asks for a permit gets one or stands in line for it, and either is nearer to the
end than holding its ticket. -/
theorem request_lt (hq : q.Orderly p) (hd : q.drainer? d.id = some d) {t : Ticket}
    (hs : d.stage = .holding t) : (q.request d.id).weight < q.weight := by
  by_cases hfree : 0 < q.free
  · rw [request_eq_permitted hq hd hs hfree]
    exact enter_lt hq.ids hd (.permitted t) (by simp [hs, Stage.ahead])
  · rw [request_eq_waiting hq hd hs (by omega)]
    exact enter_lt hq.ids hd (.waiting t) (by simp [hs, Stage.ahead])

theorem request_eq_self (h : ∀ d, q.drainer? id = some d → ∀ t, d.stage ≠ .holding t) :
    q.request id = q := by
  unfold request
  split
  next t hd => exact absurd rfl (h _ hd t)
  next => rfl

/-- Asking for a permit brings the queue nearer to its end, or changes nothing. -/
theorem request_cases (hq : q.Orderly p) (id : Nat) :
    (q.request id).weight < q.weight ∨ q.request id = q := by
  by_cases h : ∃ d t, q.drainer? id = some d ∧ d.stage = .holding t
  · obtain ⟨d, t, hd, hs⟩ := h
    obtain rfl := drainer?_id hd
    exact .inl (request_lt hq hd hs)
  · exact .inr (request_eq_self fun d hd t hs => h ⟨d, t, hd, hs⟩)

/-- A drainer that starts its ticket has only to end it and give its permit back. -/
theorem start_lt (hq : q.Orderly p) (hd : q.drainer? d.id = some d) {t : Ticket}
    (hs : d.stage = .permitted t) : (q.start d.id).weight < q.weight := by
  rw [start_eq hq hd hs]
  exact enter_lt hq.ids hd (.running t) (by simp [hs, Stage.ahead])

/-- A permit that is given back goes to the next in line, if there is one, and both are nearer to
their ends. -/
theorem release_lt (hq : q.Orderly p) (hd : q.drainer? d.id = some d) {t : Ticket}
    (hs : d.stage = .ended t) : (q.release d.id).weight < q.weight := by
  have hfirst : (q.put { d with stage := .idle }).weight < q.weight :=
    enter_lt hq.ids hd .idle (by simp [hs, Stage.ahead])
  cases hl : q.line with
  | nil =>
    rw [release_eq_nil hq hd hs hl]
    exact hfirst
  | cons first rest =>
    -- the first in line comes nearer to the end, too
    obtain ⟨f, t', hf, rfl, hne, hstage, he⟩ := release_eq_cons hq hd hs hl
    have hids : ((q.put { d with stage := .idle }).drainers.map (·.id)).Nodup := by
      rw [ids_put]
      exact hq.ids
    have hf' : (q.put { d with stage := .idle }).drainer? f.id = some f := by
      rw [drainer?_put hd { d with stage := .idle } rfl, if_neg hne]
      exact hf
    rw [he]
    exact Nat.lt_trans (enter_lt hids hf' (.permitted t') (by simp [hstage, Stage.ahead])) hfirst

theorem release_eq_self (h : ∀ d, q.drainer? id = some d → ∀ t, d.stage ≠ .ended t) :
    q.release id = q := by
  unfold release
  split
  next t hd => exact absurd rfl (h _ hd t)
  next => rfl

/-- Giving a permit back brings the queue nearer to its end, or changes nothing. -/
theorem release_cases (hq : q.Orderly p) (id : Nat) :
    (q.release id).weight < q.weight ∨ q.release id = q := by
  by_cases h : ∃ d t, q.drainer? id = some d ∧ d.stage = .ended t
  · obtain ⟨d, t, hd, hs⟩ := h
    obtain rfl := drainer?_id hd
    exact .inl (release_lt hq hd hs)
  · exact .inr (release_eq_self fun d hd t hs => h ⟨d, t, hd, hs⟩)

end State

end RackOperator.WorkQueue
