import CreditExtraction.Llm.Prompt

/-!
# The user message is a bounded prefix

`userPrompt` writes a header, then each line after a page marker where the page changes, and
stops with a notice before the first line that would take the message past its limit. The limit
is checked after that line's marker is written, so the message can end up longer than the limit
by the marker and the notice, never by more. The main statement, `userPrompt_bounded_prefix`,
gives the message as the header, the lines of a prefix written in full (`promptLines`) and what
ends it (`cutTail`), together with that bound and the fact that the first omitted line did not fit.
-/

namespace CreditExtraction.Llm

open Ocr

/-- The limit of the user message when `maxChars` bytes are asked for. -/
def promptLimit (maxChars : Int) : Nat :=
  if maxChars ≤ 0 then defaultMaxPromptChars else maxChars.toNat

/-- The marker written before a line on page `p` when the line before it was on page `prev`. -/
def pageBreak (prev p : Int) : String :=
  if p != prev then "--- page " ++ toString p ++ " ---\n" else ""

/-- The lines written in full, each after its page marker, the first following page `prev`. -/
def promptLines : Int → List Line → String
  | _, [] => ""
  | prev, l :: ls => pageBreak prev l.page ++ l.text ++ "\n" ++ promptLines l.page ls

/-- The page of the last of `ls`, or `prev` when there is none. -/
def pageAfter (prev : Int) (ls : List Line) : Int := ls.foldl (fun _ l => l.page) prev

/-- What ends the message after the lines written in full: nothing when they are all the
lines, else the first omitted line's page marker and the truncation notice. -/
def cutTail (prev : Int) : List Line → String
  | [] => ""
  | l :: _ => pageBreak prev l.page ++ "…(truncated)\n"

/-- One turn of the loop over the lines, on the message so far and the page of the line
before: the line's page marker, then the line if it fits within `limit`, else the notice. -/
def promptStep (limit : Nat) (l : Line) (s : String × Int) : ForInStep (String × Int) :=
  let out := s.1 ++ pageBreak s.2 l.page
  if out.utf8ByteSize + l.text.utf8ByteSize + 1 > limit then .done (out ++ "…(truncated)\n", l.page)
  else .yield (out ++ l.text ++ "\n", l.page)

theorem userPrompt_eq_forIn (lines : List Line) (maxChars : Int) :
    userPrompt lines maxChars = (Id.run (forIn lines ("Document content:\n", (0 : Int))
      fun l s => pure (promptStep (promptLimit maxChars) l s))).1 := by
  unfold userPrompt
  simp only [Id.run, bind, pure]
  congr 2
  funext l ⟨out, page⟩
  -- on the same page the marker is empty and the page kept is the line's own
  by_cases hp : l.page = page
  · simp [promptStep, pageBreak, promptLimit, hp]
  · simp [promptStep, pageBreak, promptLimit, hp, String.append_assoc, Nat.add_assoc]

/-- The loop from any message `out` within `M ≥ limit` bytes: it writes the lines of a prefix in
full and then `cutTail`, the text before the cut stays within `M`, and the first omitted line
did not fit. -/
theorem forIn_promptStep {limit M : Nat} (hM : limit ≤ M) (lines : List Line) (out : String)
    (page : Int) (hout : out.utf8ByteSize ≤ M) :
    ∃ kept rest, lines = kept ++ rest ∧
      (Id.run (forIn lines (out, page) fun l s => pure (promptStep limit l s))).1 =
        out ++ promptLines page kept ++ cutTail (pageAfter page kept) rest ∧
      (out ++ promptLines page kept).utf8ByteSize ≤ M ∧
      ∀ l ∈ rest.head?, limit < (out ++ promptLines page kept ++
        pageBreak (pageAfter page kept) l.page).utf8ByteSize + l.text.utf8ByteSize + 1 := by
  induction lines generalizing out page with
  | nil => exact ⟨[], [], rfl, by simp [promptLines, cutTail], by simpa [promptLines], by simp⟩
  | cons l ls ih =>
    rw [List.forIn_cons]
    by_cases hfit : (out ++ pageBreak page l.page).utf8ByteSize + l.text.utf8ByteSize + 1 > limit
    · refine ⟨[], l :: ls, rfl, ?_, by simpa [promptLines], by simpa [promptLines, pageAfter] using hfit⟩
      rw [show promptStep limit l (out, page) = .done (out ++ pageBreak page l.page ++ "…(truncated)\n",
        l.page) from if_pos hfit]
      simp [promptLines, cutTail, pageAfter, String.append_assoc]
    · rw [show promptStep limit l (out, page) = .yield (out ++ pageBreak page l.page ++ l.text ++ "\n",
        l.page) from if_neg hfit]
      -- the written line keeps the message within `limit`, so the rest starts within `M`
      have hnext : (out ++ pageBreak page l.page ++ l.text ++ "\n").utf8ByteSize ≤ M := by
        have hnl : "\n".utf8ByteSize = 1 := rfl
        simp only [String.utf8ByteSize_append] at hfit ⊢
        omega
      obtain ⟨kept, rest, rfl, hrun, hsize, hcut⟩ := ih _ l.page hnext
      refine ⟨l :: kept, rest, rfl, ?_, ?_, ?_⟩
      · simpa [promptLines, pageAfter, String.append_assoc] using hrun
      · simpa [promptLines, String.append_assoc] using hsize
      · simpa [promptLines, pageAfter, String.append_assoc] using hcut

/-- The user message is the header, the lines of a prefix each written in full after its page
marker, and then, exactly when some line is left out, the first omitted line's marker and the
truncation notice. It is at most the limit (or the header) plus that ending, and the first
omitted line is one that would have taken the message past the limit. -/
theorem userPrompt_bounded_prefix (lines : List Line) (maxChars : Int) :
    ∃ kept rest, lines = kept ++ rest ∧
      userPrompt lines maxChars =
        "Document content:\n" ++ promptLines 0 kept ++ cutTail (pageAfter 0 kept) rest ∧
      (userPrompt lines maxChars).utf8ByteSize ≤
        max (promptLimit maxChars) "Document content:\n".utf8ByteSize +
          (cutTail (pageAfter 0 kept) rest).utf8ByteSize ∧
      ∀ l ∈ rest.head?, promptLimit maxChars < ("Document content:\n" ++ promptLines 0 kept ++
        pageBreak (pageAfter 0 kept) l.page).utf8ByteSize + l.text.utf8ByteSize + 1 := by
  obtain ⟨kept, rest, hsplit, hrun, hsize, hcut⟩ :=
    forIn_promptStep (Nat.le_max_left _ _) lines "Document content:\n" 0 (Nat.le_max_right _ _)
  refine ⟨kept, rest, hsplit, by rw [userPrompt_eq_forIn, hrun], ?_, hcut⟩
  rw [userPrompt_eq_forIn, hrun, String.utf8ByteSize_append]
  omega

example : userPrompt [⟨"first", [], 0, 1⟩, ⟨"second", [], 0, 2⟩, ⟨"a much longer third line", [], 0, 2⟩]
    70 = "Document content:\n--- page 1 ---\nfirst\n--- page 2 ---\nsecond\n…(truncated)\n" := by
  decide

end CreditExtraction.Llm
