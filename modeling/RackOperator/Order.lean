/-!
# Lexicographic order

Keys with two parts compare by the first, and by the second where the first parts
are equal. The three order laws pass from the parts to the pairs.
-/

namespace RackOperator

/-- The first part decides, the second breaks a tie. -/
def lexLt {α β : Type} [LT α] [LT β] (a b : α × β) : Prop :=
  a.1 < b.1 ∨ (a.1 = b.1 ∧ a.2 < b.2)

instance {α β : Type} [LT α] [LT β] [DecidableLT α] [DecidableLT β] [DecidableEq α]
    (a b : α × β) : Decidable (lexLt a b) :=
  inferInstanceAs (Decidable (_ ∨ _))

section Laws

variable {α β : Type} [LT α] [LT β]

theorem lexLt_irrefl [Std.Irrefl (α := α) (· < ·)] [Std.Irrefl (α := β) (· < ·)] (a : α × β) :
    ¬lexLt a a := by
  rintro (h | ⟨-, h⟩)
  · exact Std.Irrefl.irrefl (r := fun (x y : α) => x < y) _ h
  · exact Std.Irrefl.irrefl (r := fun (x y : β) => x < y) _ h

/-- The order of lists is transitive if that of their members is. -/
theorem lexLt_trans [Trans (α := α) (β := α) (γ := α) (· < ·) (· < ·) (· < ·)]
    [Trans (α := β) (β := β) (γ := β) (· < ·) (· < ·) (· < ·)] {a b c : α × β}
    (h : lexLt a b) (h' : lexLt b c) : lexLt a c := by
  rcases h with h | ⟨e, h⟩ <;> rcases h' with h' | ⟨e', h'⟩
  · exact .inl (Trans.trans h h')
  · exact .inl (e' ▸ h)
  · exact .inl (e ▸ h')
  · exact .inr ⟨e.trans e', Trans.trans h h'⟩

/-- Of two lists neither of which comes before the other, each is the other. -/
theorem eq_of_not_lexLt [DecidableEq α] [Std.Trichotomous (α := α) (· < ·)]
    [Std.Trichotomous (α := β) (· < ·)] {a b : α × β} (h : ¬lexLt a b) (h' : ¬lexLt b a) :
    a = b := by
  have e : a.1 = b.1 := Std.Trichotomous.trichotomous (r := fun (x y : α) => x < y) _ _
    (fun l => h (.inl l)) (fun l => h' (.inl l))
  have e' : a.2 = b.2 := Std.Trichotomous.trichotomous (r := fun (x y : β) => x < y) _ _
    (fun l => h (.inr ⟨e, l⟩)) (fun l => h' (.inr ⟨e.symm, l⟩))
  exact Prod.ext e e'

end Laws

end RackOperator
