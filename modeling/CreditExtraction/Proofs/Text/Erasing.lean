import CreditExtraction.Text.Search

/-!
# Taking a piece out of a text

`eraseAll pat cs` takes every occurrence of `pat` out of `cs`, searching from the left. The
lemmas here say what that does to a text built from parts: an occurrence at the front goes
(`eraseAll_prefix`), a character that does not occur in the piece stays
(`eraseAll_cons_of_not_mem`), and a part none of whose positions starts an occurrence stays
whole (`eraseAll_append_of_not_prefix`). A tail made of characters foreign to the piece is kept
as it is after the rest has been searched (`eraseAll_append_of_tail`), since no occurrence can
run into it; an occurrence that does run past a part takes in the first character after it
(`exists_head_of_prefix_append`).
-/

namespace CreditExtraction.Text

variable {pat : List Char}

@[simp] theorem eraseAll_nil (pat : List Char) : eraseAll pat [] = [] := by
  simp [eraseAll]

/-- An occurrence at the front is taken out whole. -/
theorem eraseAll_prefix (hne : pat ≠ []) (rest : List Char) :
    eraseAll pat (pat ++ rest) = eraseAll pat rest := by
  obtain ⟨c, cs, rfl⟩ := List.exists_cons_of_ne_nil hne
  rw [List.cons_append, eraseAll, dif_pos ⟨hne, by simp⟩]
  simp

/-- Where no occurrence starts, the character stays. -/
theorem eraseAll_cons_of_not_prefix {c : Char} {rest : List Char} (h : ¬pat <+: c :: rest) :
    eraseAll pat (c :: rest) = c :: eraseAll pat rest := by
  rw [eraseAll, dif_neg fun hp => h hp.2]

/-- A character that is not in the piece starts no occurrence of it. -/
theorem eraseAll_cons_of_not_mem {c : Char} (h : c ∉ pat) (rest : List Char) :
    eraseAll pat (c :: rest) = c :: eraseAll pat rest := by
  rw [eraseAll, dif_neg]
  rintro ⟨hne, t, ht⟩
  obtain ⟨p, ps, rfl⟩ := List.exists_cons_of_ne_nil hne
  simp only [List.cons_append, List.cons.injEq] at ht
  exact h (ht.1 ▸ List.mem_cons_self)

/-- A part none of whose positions starts an occurrence, even one running into what follows,
stays whole. -/
theorem eraseAll_append_of_not_prefix {xs ys : List Char}
    (h : ∀ j < xs.length, ¬pat <+: xs.drop j ++ ys) :
    eraseAll pat (xs ++ ys) = xs ++ eraseAll pat ys := by
  induction xs with
  | nil => rfl
  | cons x xs ih =>
    rw [List.cons_append, eraseAll_cons_of_not_prefix (by simpa using h 0 (by simp)),
      ih fun j hj => by simpa using h (j + 1) (by simpa using hj)]
    rfl

/-- A part made of characters foreign to the piece stays whole. -/
theorem eraseAll_append_of_forall_not_mem {xs : List Char} (h : ∀ c ∈ xs, c ∉ pat)
    (ys : List Char) : eraseAll pat (xs ++ ys) = xs ++ eraseAll pat ys := by
  induction xs with
  | nil => rfl
  | cons x xs ih =>
    rw [List.cons_append, eraseAll_cons_of_not_mem (h x (by simp)),
      ih fun c hc => h c (by simp [hc])]
    rfl

theorem eraseAll_of_forall_not_mem {ys : List Char} (h : ∀ c ∈ ys, c ∉ pat) :
    eraseAll pat ys = ys := by
  simpa using eraseAll_append_of_forall_not_mem h []

/-- A tail made of characters foreign to the piece is kept after the rest is searched: no
occurrence can run into it. -/
theorem eraseAll_append_of_tail {xs ys : List Char} (h : ∀ c ∈ ys, c ∉ pat) :
    eraseAll pat (xs ++ ys) = eraseAll pat xs ++ ys := by
  fun_induction eraseAll pat xs with
  | case1 => simpa using eraseAll_of_forall_not_mem h
  | case2 c rest hp ih =>
    rw [List.cons_append, eraseAll, dif_pos ⟨hp.1, hp.2.trans (List.prefix_append _ _)⟩,
      ← List.cons_append, List.drop_append_of_le_length hp.2.length_le, ih]
  | case3 c rest hp ih =>
    rw [List.cons_append, eraseAll, dif_neg, ih, List.cons_append]
    rintro ⟨hne, hpre⟩
    -- an occurrence here would have to run past `c :: rest` into the tail
    rcases List.prefix_or_prefix_of_prefix hpre (List.prefix_append (c :: rest) ys) with
      h1 | ⟨u, hu⟩
    · exact hp ⟨hne, h1⟩
    · subst hu
      rw [← List.cons_append, List.prefix_append_right_inj] at hpre
      cases u with
      | nil => exact hp ⟨hne, by simp⟩
      | cons v vs => exact h v (hpre.subset List.mem_cons_self) (by simp)

/-- An occurrence that runs past `xs` takes in the first character of what follows. -/
theorem exists_head_of_prefix_append {xs ys : List Char} (h : pat <+: xs ++ ys)
    (hlen : xs.length < pat.length) : ∃ y r, ys = y :: r ∧ y ∈ pat := by
  rcases List.prefix_or_prefix_of_prefix h (List.prefix_append xs ys) with h1 | ⟨u, rfl⟩
  · exact absurd h1.length_le (by omega)
  · rw [List.prefix_append_right_inj] at h
    cases u with
    | nil => simp at hlen
    | cons v vs =>
      obtain ⟨t, ht⟩ := h
      exact ⟨v, vs ++ t, by simp [← ht], by simp⟩

end CreditExtraction.Text
