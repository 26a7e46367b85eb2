import Mathlib.Tactic.SplitIfs
import CreditExtraction.Ocr.Normalize

/-!
# Clean text

`cleanText` drops control characters and turns each run of blanks into one space, with none at
either end. Its results are the clean texts: words (non-empty runs of characters that are neither
blanks nor control characters) with one space between each two (`Clean`).

* `cleanText_clean`: whatever it is given, `cleanText` returns clean text.
* `cleanText_of_clean`: clean text is returned as it is. So `cleanText` is idempotent
  (`cleanText_cleanText`).
* `Clean.intercalate`: clean texts that are not empty, joined by single spaces, are clean.

The scan keeps the text so far reversed, with a flag for blanks seen since its last word
(`cleanStep`). Over any input the reversed text is the reversed words with single spaces
(`words_cleanStep`); over a run of words the scan writes them back with the pending space in
front (`foldl_cleanStep_words`).
-/

namespace CreditExtraction.Ocr

open Text

/-- A word of clean text: characters that are neither blanks nor control characters, at least one. -/
def IsWord (w : List Char) : Prop :=
  w ≠ [] ∧ ∀ c ∈ w, CharClass.isSpace c = false ∧ CharClass.isControl c = false

/-- Clean text: words, with one space between each two. -/
def Clean (s : String) : Prop :=
  ∃ ws : List (List Char), (∀ w ∈ ws, IsWord w) ∧ s.toList = [' '].intercalate ws

/-! ## Joining lists -/

theorem intercalate_append {sep : List Char} {A B : List (List Char)} (hA : A ≠ []) (hB : B ≠ []) :
    sep.intercalate (A ++ B) = sep.intercalate A ++ sep ++ sep.intercalate B := by
  induction A with
  | nil => contradiction
  | cons a A ih =>
    rcases A with _ | ⟨a', A⟩
    · obtain ⟨b, B, rfl⟩ := List.exists_cons_of_ne_nil hB
      simp
    · have hrest := ih (List.cons_ne_nil _ _)
      simp only [List.cons_append] at hrest
      simp [hrest]

/-- Characters added to the last word land at the end of the joined text. -/
theorem intercalate_concat_append (sep : List Char) (ws : List (List Char)) (w t : List Char) :
    sep.intercalate (ws ++ [w ++ t]) = sep.intercalate (ws ++ [w]) ++ t := by
  rcases List.eq_nil_or_concat ws with rfl | ⟨ws₀, w₀, rfl⟩
  · simp
  · rw [intercalate_append (by simp) (by simp), intercalate_append (by simp) (by simp)]
    simp

theorem intercalate_eq_nil {sep : List Char} {ws : List (List Char)} (hws : ∀ w ∈ ws, IsWord w) :
    sep.intercalate ws = [] ↔ ws = [] := by
  refine ⟨fun h => ?_, fun h => by simp [h]⟩
  rcases ws with _ | ⟨w, _ | ⟨w', ws⟩⟩
  · rfl
  · exact absurd (by simpa using h) (hws w List.mem_cons_self).1
  · exact absurd (by simp only [List.intercalate_cons_cons, List.append_eq_nil_iff] at h; exact h.1.1)
      (hws w List.mem_cons_self).1

/-! ## The scan -/

/-- One step of `cleanText`: the text so far reversed, and whether blanks came after it. -/
def cleanStep (acc : List Char × Bool) (c : Char) : List Char × Bool :=
  let (out, pending) := acc
  if CharClass.isSpace c then (out, true)
  else if CharClass.isControl c then (out, pending)
  else if pending && !out.isEmpty then (c :: ' ' :: out, false)
  else (c :: out, false)

theorem cleanText_eq (s : String) :
    cleanText s = String.ofList (s.toList.foldl cleanStep ([], false)).1.reverse := rfl

/-- The text so far, written in front of the next word: after a space if blanks are pending and
there is text. -/
def lead (out : List Char) (pending : Bool) : List Char :=
  if pending && !out.isEmpty then ' ' :: out else out

/-- Reversed words with single spaces: what the scan keeps. -/
def ReversedWords (out : List Char) : Prop :=
  ∃ ws : List (List Char), (∀ w ∈ ws, IsWord w) ∧ out.reverse = [' '].intercalate ws

/-- A step of the scan keeps the text so far in words. -/
theorem words_cleanStep {out : List Char} (pending : Bool) (c : Char) (h : ReversedWords out) :
    ReversedWords (cleanStep (out, pending) c).1 := by
  obtain ⟨ws, hws, hout⟩ := h
  simp only [cleanStep]
  split_ifs with hsp hctl hsep
  · exact ⟨ws, hws, hout⟩
  · exact ⟨ws, hws, hout⟩
  · -- a new word after the pending blanks
    have hne : ws ≠ [] := by
      rintro rfl
      simp_all
    refine ⟨ws ++ [[c]], ?_, ?_⟩
    · simp only [List.mem_append, List.mem_singleton]
      rintro w (hw | rfl)
      · exact hws w hw
      · exact ⟨List.cons_ne_nil _ _, by simp_all⟩
    · rw [intercalate_append hne (List.cons_ne_nil _ _)]
      simp [hout]
  · -- the character extends the last word, or begins the first
    have hc : CharClass.isSpace c = false ∧ CharClass.isControl c = false := by simp_all
    rcases List.eq_nil_or_concat ws with rfl | ⟨ws₀, w, rfl⟩
    · have hnil : out = [] := by simpa using hout
      exact ⟨[[c]], by simpa [IsWord] using hc, by simp [hnil]⟩
    · refine ⟨ws₀ ++ [w ++ [c]], ?_, ?_⟩
      · simp only [List.mem_append, List.mem_singleton]
        rintro v (hv | rfl)
        · exact hws v (by simp [hv])
        · have hw := hws w (by simp)
          refine ⟨by simp, fun x hx => ?_⟩
          rcases List.mem_append.1 hx with hx | hx
          · exact hw.2 x hx
          · rw [List.mem_singleton.1 hx]
            exact hc
      · rw [intercalate_concat_append]
        simp [hout]

theorem words_foldl_cleanStep (cs : List Char) (acc : List Char × Bool) (h : ReversedWords acc.1) :
    ReversedWords (cs.foldl cleanStep acc).1 := by
  induction cs generalizing acc with
  | nil => exact h
  | cons c cs ih => exact ih _ (words_cleanStep acc.2 c h)

/-- Whatever it is given, `cleanText` returns clean text. -/
theorem cleanText_clean (s : String) : Clean (cleanText s) := by
  obtain ⟨ws, hws, hout⟩ := words_foldl_cleanStep s.toList ([], false) ⟨[], by simp, rfl⟩
  exact ⟨ws, hws, by rw [cleanText_eq, String.toList_ofList, hout]⟩

/-- A run of word characters is written out after the text so far. -/
theorem foldl_cleanStep_word {w : List Char} (out : List Char) (pending : Bool) (hw : IsWord w) :
    w.foldl cleanStep (out, pending) = (w.reverse ++ lead out pending, false) := by
  obtain ⟨hne, hchars⟩ := hw
  induction w generalizing out pending with
  | nil => contradiction
  | cons c w ih =>
    have hc := hchars c List.mem_cons_self
    have hstep : cleanStep (out, pending) c = (c :: lead out pending, false) := by
      simp only [cleanStep, lead]
      split_ifs <;> simp_all
    rw [List.foldl_cons, hstep]
    rcases w with _ | ⟨d, w⟩
    · rfl
    · rw [ih _ _ (List.cons_ne_nil _ _) fun x hx => hchars x (List.mem_cons_of_mem c hx)]
      simp [lead]

/-- A run of words with single spaces is written out after the text so far. -/
theorem foldl_cleanStep_words {ws : List (List Char)} (out : List Char) (pending : Bool)
    (hne : ws ≠ []) (hws : ∀ w ∈ ws, IsWord w) :
    ([' '].intercalate ws).foldl cleanStep (out, pending) =
      (([' '].intercalate ws).reverse ++ lead out pending, false) := by
  induction ws generalizing out pending with
  | nil => contradiction
  | cons w ws ih =>
    have hw := hws w List.mem_cons_self
    rcases ws with _ | ⟨w', ws⟩
    · simpa using foldl_cleanStep_word out pending hw
    · -- the first word, then the space, then the rest after a pending blank
      have hspace : CharClass.isSpace ' ' = true := by decide
      have hlead : lead (w.reverse ++ lead out pending) true = ' ' :: (w.reverse ++ lead out pending) := by
        simp [lead, hw.1]
      rw [List.intercalate_cons_cons, List.foldl_append, List.foldl_append,
        foldl_cleanStep_word out pending hw]
      simp only [List.foldl_cons, List.foldl_nil, cleanStep, hspace, if_true]
      rw [ih _ _ (List.cons_ne_nil _ _) fun v hv => hws v (List.mem_cons_of_mem w hv), hlead]
      simp

/-- Clean text is returned as it is. -/
theorem cleanText_of_clean {s : String} (h : Clean s) : cleanText s = s := by
  obtain ⟨ws, hws, hs⟩ := h
  rcases ws with _ | ⟨w, ws⟩
  · have hnil : s = "" := String.toList_injective (by simpa using hs)
    subst hnil
    rfl
  · rw [cleanText_eq, hs, foldl_cleanStep_words [] false (List.cons_ne_nil _ _) hws]
    apply String.toList_injective
    simp [lead, hs]

theorem cleanText_cleanText (s : String) : cleanText (cleanText s) = cleanText s :=
  cleanText_of_clean (cleanText_clean s)

/-! ## Joining clean texts -/

theorem Clean.ne_empty_iff {s : String} {ws : List (List Char)} (hws : ∀ w ∈ ws, IsWord w)
    (hs : s.toList = [' '].intercalate ws) : s ≠ "" ↔ ws ≠ [] := by
  rw [ne_eq, ne_eq, ← intercalate_eq_nil hws, ← hs, ← String.toList_eq_nil_iff]

/-- Texts that are not empty, joined, are not empty. -/
theorem intercalate_ne_empty {parts : List String} (hne : parts ≠ []) (h : ∀ p ∈ parts, p ≠ "") :
    " ".intercalate parts ≠ "" := by
  obtain ⟨p, ps, rfl⟩ := List.exists_cons_of_ne_nil hne
  intro he
  have hnil := congrArg String.toList he
  rw [String.toList_intercalate] at hnil
  rcases ps with _ | ⟨q, ps⟩
  · exact h p List.mem_cons_self (String.toList_eq_nil_iff.1 (by simpa using hnil))
  · simp at hnil

/-- Clean texts that are not empty, joined by single spaces, are clean. -/
theorem Clean.intercalate {parts : List String} (h : ∀ p ∈ parts, Clean p ∧ p ≠ "") :
    Clean (" ".intercalate parts) := by
  induction parts with
  | nil => exact ⟨[], by simp, by simp⟩
  | cons p parts ih =>
    obtain ⟨⟨ws, hws, hp⟩, hpne⟩ := h p List.mem_cons_self
    rcases parts with _ | ⟨q, parts⟩
    · exact ⟨ws, hws, by simpa using hp⟩
    · obtain ⟨vs, hvs, hrest⟩ := ih fun x hx => h x (List.mem_cons_of_mem p hx)
      -- the rest is not empty, so it holds a word
      have hvne : vs ≠ [] := (Clean.ne_empty_iff hvs hrest).1 <|
        intercalate_ne_empty (List.cons_ne_nil _ _) fun x hx => (h x (List.mem_cons_of_mem p hx)).2
      refine ⟨ws ++ vs, fun w hw => ?_, ?_⟩
      · rcases List.mem_append.1 hw with hw | hw
        · exact hws w hw
        · exact hvs w hw
      · rw [String.intercalate_cons_cons, String.toList_append, String.toList_append, hp, hrest,
          intercalate_append ((Clean.ne_empty_iff hws hp).1 hpne) hvne]
        simp

end CreditExtraction.Ocr
