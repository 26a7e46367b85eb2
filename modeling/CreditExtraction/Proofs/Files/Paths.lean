import Mathlib
import CreditExtraction.Files.Tree

/-! # Paths and their parts

The file tree looks every path up by its parts (`Path.parts`): the texts between its slashes,
empty ones dropped. Two paths name one node exactly when their parts agree, so what an
operation does at a path is read off the parts alone.

* `parts_append_slash`: a slash splits a path's parts into those before it and those after.
* `parts_of_isPart`: a text with no slash is its own one part (`IsPart`).
* `parts_ofParts`: the parts of the path built from parts are those parts.
* `parts_join`, `parts_parent`, `base_ofParts`, `parts_ofParts_append`: the parts of the paths
  the tree derives from a path.
* `mem_ancestors`: the ancestors of a path are the paths of the proper leading runs of its parts.
-/

namespace CreditExtraction.Files.Path

/-- A text that can be a part of a path: not empty, with no slash. -/
def IsPart (s : String) : Prop := s ≠ "" ∧ '/' ∉ s.toList

/-! ## Splitting at slashes -/

theorem parts_eq (p : String) :
    parts p = ((p.toList.splitOn '/').filter (!·.isEmpty)).map String.ofList := rfl

/-- A slash splits the parts of a path. -/
theorem parts_append_slash (a b : String) : parts (a ++ "/" ++ b) = parts a ++ parts b := by
  have h : (a ++ "/" ++ b).toList = a.toList ++ '/' :: b.toList := by simp
  rw [parts_eq, h, List.splitOn_append_cons_of_beq _ _ (by simp), List.filter_append,
    List.map_append]
  rfl

@[simp] theorem parts_empty : parts "" = [] := rfl

theorem parts_of_isPart {s : String} (h : IsPart s) : parts s = [s] := by
  rw [parts_eq, List.splitOn_eq_singleton h.2]
  have hne : s.toList.isEmpty = false := by
    simpa [List.isEmpty_iff, String.toList_eq_nil_iff] using h.1
  simp [hne]

/-- A piece of a split holds no separator. -/
theorem not_mem_of_mem_splitOn {l : List Char} {w : List Char} (hw : w ∈ l.splitOn '/') :
    '/' ∉ w := by
  induction l generalizing w with
  | nil => simp at hw; simp [hw]
  | cons c cs ih =>
    rw [List.splitOn_cons_eq_if_modifyHead] at hw
    split_ifs at hw with hc
    · rcases List.mem_cons.1 hw with rfl | hw
      · simp
      · exact ih hw
    · obtain ⟨r, rs, hr⟩ := List.exists_cons_of_ne_nil (List.splitOn_ne_nil '/' cs)
      rw [hr, List.modifyHead_cons] at hw
      rcases List.mem_cons.1 hw with rfl | hw
      · have hc' : c ≠ '/' := by simpa using hc
        simpa [Ne.symm hc'] using ih (hr ▸ List.mem_cons_self ..)
      · exact ih (hr ▸ List.mem_cons_of_mem _ hw)

/-- Every part of a path is a part. -/
theorem isPart_of_mem_parts {p s : String} (h : s ∈ parts p) : IsPart s := by
  rw [parts_eq] at h
  obtain ⟨w, hw, rfl⟩ := List.mem_map.1 h
  obtain ⟨hsplit, hne⟩ := List.mem_filter.1 hw
  refine ⟨?_, by simpa using not_mem_of_mem_splitOn hsplit⟩
  intro h0
  have : w = [] := by simpa using congrArg String.toList h0
  simp [this] at hne

/-! ## Paths built from parts -/

theorem ofParts_eq (ps : List String) : ofParts ps = "/" ++ "/".intercalate ps := rfl

theorem parts_slash_append (b : String) : parts ("/" ++ b) = parts b := by
  simpa using parts_append_slash "" b

/-- Joining parts with slashes gives a text whose parts are those parts. -/
theorem parts_intercalate : ∀ {ps : List String}, (∀ s ∈ ps, IsPart s) →
    parts ("/".intercalate ps) = ps
  | [], _ => rfl
  | [a], h => by rw [String.intercalate_singleton, parts_of_isPart (h a (by simp))]
  | a :: b :: rest, h => by
    rw [String.intercalate_cons_cons, parts_append_slash, parts_of_isPart (h a (by simp)),
      parts_intercalate fun s hs => h s (List.mem_cons_of_mem _ hs)]
    rfl

/-- The parts of the path built from parts are those parts. -/
theorem parts_ofParts {ps : List String} (h : ∀ s ∈ ps, IsPart s) : parts (ofParts ps) = ps := by
  rw [ofParts_eq, parts_slash_append, parts_intercalate h]

/-- Distinct runs of parts build distinct paths. -/
theorem ofParts_inj {ps qs : List String} (hp : ∀ s ∈ ps, IsPart s) (hq : ∀ s ∈ qs, IsPart s)
    (h : ofParts ps = ofParts qs) : ps = qs := by
  rw [← parts_ofParts hp, ← parts_ofParts hq, h]

theorem ofParts_append_singleton {ps : List String} (hne : ps ≠ []) (x : String) :
    ofParts (ps ++ [x]) = ofParts ps ++ "/" ++ x := by
  rw [ofParts_eq, ofParts_eq, String.intercalate_append_of_ne_nil hne (by simp),
    String.intercalate_singleton]
  simp only [String.append_assoc]

/-! ## Derived paths -/

theorem parts_join (dir name : String) : parts (join dir name) = parts dir ++ parts name :=
  parts_ofParts fun s hs => by
    rcases List.mem_append.1 hs with hs | hs <;> exact isPart_of_mem_parts hs

theorem parts_parent (p : String) : parts (parent p) = (parts p).dropLast :=
  parts_ofParts fun _ hs => isPart_of_mem_parts (List.mem_of_mem_dropLast hs)

theorem base_ofParts {ps : List String} (hps : ∀ s ∈ ps, IsPart s) (x : String) (hx : IsPart x) :
    base (ofParts (ps ++ [x])) = x := by
  rw [base, parts_ofParts (by simpa [or_imp, forall_and] using And.intro hps hx)]
  simp

/-- A text without a slash appended to a path extends its last part. -/
theorem parts_ofParts_append {ps : List String} (hps : ∀ s ∈ ps, IsPart s) (hne : ps ≠ [])
    {x y : String} (hx : IsPart x) (hy : '/' ∉ y.toList) :
    parts (ofParts (ps ++ [x]) ++ y) = ps ++ [x ++ y] := by
  have hxy : IsPart (x ++ y) := ⟨by simp [hx.1], by simpa [String.toList_append] using ⟨hx.2, hy⟩⟩
  rw [ofParts_append_singleton hne, String.append_assoc, parts_append_slash, parts_ofParts hps,
    parts_of_isPart hxy]

/-- The ancestors of a path are the paths of the proper, nonempty leading runs of its parts. -/
theorem mem_ancestors {p a : String} :
    a ∈ ancestors p ↔ ∃ i, 0 < i ∧ i < (parts p).length ∧ a = ofParts ((parts p).take i) := by
  simp only [ancestors, List.mem_filterMap, List.mem_range]
  constructor
  · rintro ⟨i, hi, h⟩
    split at h
    · cases h
    · rename_i h0
      exact ⟨i, Nat.pos_of_ne_zero (by simpa using h0), hi, (Option.some.inj h).symm⟩
  · rintro ⟨i, h0, hi, rfl⟩
    exact ⟨i, hi, by simp [Nat.pos_iff_ne_zero.1 h0]⟩

theorem parts_ofParts_take (p : String) (j : Nat) :
    parts (ofParts ((parts p).take j)) = (parts p).take j :=
  parts_ofParts fun _ hs => isPart_of_mem_parts (List.mem_of_mem_take hs)

/-- The parts of an ancestor are a proper leading run of the path's parts. -/
theorem parts_of_mem_ancestors {p a : String} (h : a ∈ ancestors p) :
    ∃ i, 0 < i ∧ i < (parts p).length ∧ parts a = (parts p).take i := by
  obtain ⟨i, h0, hi, rfl⟩ := mem_ancestors.1 h
  exact ⟨i, h0, hi, parts_ofParts_take p i⟩

end CreditExtraction.Files.Path
