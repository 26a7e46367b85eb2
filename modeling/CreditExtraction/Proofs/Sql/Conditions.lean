import Mathlib.Data.String.Basic
import CreditExtraction.Proofs.Sql.Effects

/-! # Conditions and assignments on one row

The store tests rows with a handful of conditions: a column equal (or not) to a text or a
number, a stage outside a list, a stored time compared with the clock, and conjunctions and
disjunctions of these. It assigns literals, a counter plus one (`COALESCE(c, 0) + 1`) and a
log with a line appended (`COALESCE(log, '') || line`). On a frame whose cells hold what the
store writes, each of them evaluates to a plain value:

* a text cell compared with a text compares the two texts, an integer cell compared with an
  integer the two integers, and a null cell gives an unknown truth (`truth none`);
* a conjunction or a disjunction whose left side is known is Kleene's;
* a condition holds exactly when it is true (`holds_of_eval`).

Names of columns and functions compare without regard to case; `sameName_eq` turns that into
a comparison of character lists, which `simp` decides for literal names. -/

namespace CreditExtraction.Sql

-- The evaluator's equation lemmas are made here, once: the proofs below all unfold it, and
-- would otherwise each wait for the first of them to make these lemmas.
section
attribute [local simp] eval evalList callFunction comparison comparable arith intArith
  Scope.frame Affinity.isNumeric Value.withAffinity Value.order Value.isNull Value.truthy
  Value.toNumber Value.classRank Value.compareNumbers Value.render
end

/-! ## Names -/

theorem toLower_beq (a b : String) :
    (a.toLower == b.toLower) = (a.toList.map Char.toLower == b.toList.map Char.toLower) := by
  have h : ∀ s : String, s.toLower.toList = s.toList.map Char.toLower := by
    intro s
    show (s.map Char.toLower).toList = _
    simp
  rw [Bool.eq_iff_iff, beq_iff_eq, beq_iff_eq, ← h, ← h, String.toList_inj]

theorem sameName_eq (a b : String) :
    sameName a b = (a.toList.map Char.toLower == b.toList.map Char.toLower) := by
  simp only [sameName, toLower_beq]

/-! ## Truth values -/

@[simp] theorem truthOf_truth (o : Option Bool) : truthOf (truth o) = o := by
  rcases o with _ | _ | _ <;> rfl

/-- A condition holds exactly when it evaluates to true. -/
theorem holds_of_eval {s : Scope} {e : Expr} {o : Option Bool} {a : Affinity}
    (h : eval s e = .ok (truth o, a)) : holds s e = .ok (o == some true) := by
  rcases o with _ | _ | _ <;>
    simp [holds, h, bind, Except.bind, pure, Except.pure, truth, Value.ofBool, Value.truthy,
      Value.toNumber]

theorem eval_and {s : Scope} {a b : Expr} {x : Bool} {o : Option Bool} {α β : Affinity}
    (ha : eval s a = .ok (truth (some x), α)) (hb : eval s b = .ok (truth o, β)) :
    eval s (.bin .and a b) = .ok (truth (if x then o else some false), .none) := by
  rcases o with _ | _ | _ <;> cases x <;>
    simp [eval, ha, hb, bind, Except.bind, pure, Except.pure]

theorem eval_and_known {s : Scope} {a b : Expr} {x y : Bool} {α β : Affinity}
    (ha : eval s a = .ok (truth (some x), α)) (hb : eval s b = .ok (truth (some y), β)) :
    eval s (.bin .and a b) = .ok (truth (some (x && y)), .none) := by
  rw [eval_and ha hb]
  cases x <;> rfl

theorem eval_or {s : Scope} {a b : Expr} {x : Bool} {o : Option Bool} {α β : Affinity}
    (ha : eval s a = .ok (truth (some x), α)) (hb : eval s b = .ok (truth o, β)) :
    eval s (.bin .or a b) = .ok (truth (if x then some true else o), .none) := by
  rcases o with _ | _ | _ <;> cases x <;>
    simp [eval, ha, hb, bind, Except.bind, pure, Except.pure]

/-! ## Columns of the current row -/

theorem eval_col {f : Frame} {name : String} {c : Cell} (h : f.cell? name = some c) :
    eval ⟨some f, none, none⟩ (.col .current name) = .ok (c.value, c.affinity) := by
  simp [eval, Scope.frame, h]

/-! ## Comparisons -/

theorem compare_beq_eq (v s : String) : (compare v s == .eq) = (v == s) := by
  rw [Bool.eq_iff_iff, beq_iff_eq, beq_iff_eq, compare_eq_iff_eq]

theorem Int.compare_beq_eq (v s : Int) : (compare v s == .eq) = (v == s) := by
  rw [Bool.eq_iff_iff, beq_iff_eq, beq_iff_eq, compare_eq_iff_eq]

theorem compare_beq_lt (v s : String) : (compare v s == .lt) = decide (v < s) := by
  rw [Bool.eq_iff_iff, beq_iff_eq, compare_lt_iff_lt, decide_eq_true_iff]

theorem compare_bne_gt (v s : String) : (compare v s != .gt) = decide (v ≤ s) := by
  rw [Bool.eq_iff_iff, bne_iff_ne, ne_eq, compare_gt_iff_gt, not_lt, decide_eq_true_iff]

section Comparisons

variable {f : Frame} {c : String} {col : String}

/-- A text cell equals a text when the two texts are the same. -/
theorem eval_colEq_text {v s : String} (h : f.cell? c = some ⟨col, .text, .text v⟩) :
    eval ⟨some f, none, none⟩ (Expr.colEq c (.text s)) = .ok (truth (some (v == s)), .none) := by
  simp [Expr.colEq, eval, Scope.frame, h, comparison, comparable, Affinity.isNumeric,
    Value.withAffinity, Value.isNull, Value.order, bind, Except.bind, pure, Except.pure,
    truth, compare_beq_eq]

theorem eval_colNe_text {v s : String} (h : f.cell? c = some ⟨col, .text, .text v⟩) :
    eval ⟨some f, none, none⟩ (Expr.colNe c (.text s)) = .ok (truth (some (v != s)), .none) := by
  simp [Expr.colNe, eval, Scope.frame, h, comparison, comparable, Affinity.isNumeric,
    Value.withAffinity, Value.isNull, Value.order, bind, Except.bind, pure, Except.pure,
    truth, bne, compare_beq_eq]

/-- An integer cell equals an integer when the two integers are the same. -/
theorem eval_colEq_int {v k : Int} (h : f.cell? c = some ⟨col, .integer, .int v⟩) :
    eval ⟨some f, none, none⟩ (Expr.colEq c (.int k)) = .ok (truth (some (v == k)), .none) := by
  simp [Expr.colEq, eval, Scope.frame, h, comparison, comparable, Affinity.isNumeric,
    Value.withAffinity, Value.isNull, Value.order, Value.classRank, Value.compareNumbers,
    bind, Except.bind, pure, Except.pure, truth, Int.compare_beq_eq]

/-- A text cell is before a text when its text sorts before it. -/
theorem eval_lt_text {v s : String} (h : f.cell? c = some ⟨col, .text, .text v⟩) :
    eval ⟨some f, none, none⟩ (.bin .lt (.col .current c) (.lit (.text s))) =
      .ok (truth (some (decide (v < s))), .none) := by
  simp [eval, Scope.frame, h, comparison, comparable, Affinity.isNumeric, Value.withAffinity,
    Value.isNull, Value.order, bind, Except.bind, pure, Except.pure, compare_beq_lt, truth]

theorem eval_le_text {v s : String} (h : f.cell? c = some ⟨col, .text, .text v⟩) :
    eval ⟨some f, none, none⟩ (.bin .le (.col .current c) (.lit (.text s))) =
      .ok (truth (some (decide (v ≤ s))), .none) := by
  simp [eval, Scope.frame, h, comparison, comparable, Affinity.isNumeric, Value.withAffinity,
    Value.isNull, Value.order, bind, Except.bind, pure, Except.pure, compare_bne_gt, truth]

/-- A null cell compared with a text gives no answer. -/
theorem eval_lt_null {s : String} (h : f.cell? c = some ⟨col, .text, .null⟩) :
    eval ⟨some f, none, none⟩ (.bin .lt (.col .current c) (.lit (.text s))) =
      .ok (truth none, .none) := by
  simp [eval, Scope.frame, h, comparison, comparable, Affinity.isNumeric, Value.withAffinity,
    Value.isNull, bind, Except.bind, pure, Except.pure, truth]

/-- A null cell compared with a text gives no answer. -/
theorem eval_eq_null {s : String} (h : f.cell? c = some ⟨col, .text, .null⟩) :
    eval ⟨some f, none, none⟩ (Expr.colEq c (.text s)) = .ok (truth none, .none) := by
  simp [Expr.colEq, eval, Scope.frame, h, comparison, comparable, Affinity.isNumeric,
    Value.withAffinity, Value.isNull, bind, Except.bind, pure, Except.pure, truth]

/-- A text cell is outside a list of two texts when it is neither. -/
theorem eval_notIn_text {v a b : String} (h : f.cell? c = some ⟨col, .text, .text v⟩) :
    eval ⟨some f, none, none⟩ (.inList (.col .current c) [.lit (.text a), .lit (.text b)] true) =
      .ok (truth (some (v != a && v != b)), .none) := by
  by_cases ha : v = a <;> by_cases hb : v = b <;>
    simp [eval, evalList, Scope.frame, h, comparison, comparable, Affinity.isNumeric,
      Value.withAffinity, Value.isNull, Value.order, Value.truthy, Value.toNumber, bind,
      Value.ofBool, Except.bind, pure, Except.pure, truth, ha, hb]

/-! ## Assignments -/

@[simp] theorem eval_lit (s : Scope) (v : Value) : eval s (.lit v) = .ok (v, .none) := by
  simp [eval]

/-- The number an attempts counter holds after `COALESCE(attempts, 0) + 1`, as stored. -/
def Value.countedUp (v : Value) : Value :=
  (arith .add (if v.isNull then .int 0 else v) (.int 1)).withAffinity .integer

theorem Value.countedUp_int {n : Int} (h : fitsInt (n + 1)) :
    Value.countedUp (.int n) = .int (n + 1) := by
  simp [Value.countedUp, Value.isNull, arith, Value.toNumber, intArith, h, Value.withAffinity]

theorem coalesce_toLower : "COALESCE".toLower = "coalesce" := by decide +kernel

/-- `COALESCE(c, 0) + 1` adds one to the number of a cell, a null counting as zero. -/
theorem eval_countUp {aff : Affinity} {v : Value} (h : f.cell? c = some ⟨col, aff, v⟩) :
    eval ⟨some f, none, none⟩
        (.bin .add (.call "COALESCE" [.col .current c, .lit (.int 0)]) (.lit (.int 1))) =
      .ok (arith .add (if v.isNull then .int 0 else v) (.int 1), .none) := by
  cases v <;> simp [eval, evalList, Scope.frame, h, callFunction, coalesce_toLower, Value.isNull,
    bind, Except.bind, pure, Except.pure]

/-- `COALESCE(log, '') || line` appends a line to a text cell. -/
theorem eval_appendText {aff : Affinity} {log line : String}
    (h : f.cell? c = some ⟨col, aff, .text log⟩) :
    eval ⟨some f, none, none⟩
        (.bin .concat (.call "COALESCE" [.col .current c, .lit (.text "")]) (.lit (.text line))) =
      .ok (.text (log ++ line), .none) := by
  simp [eval, evalList, Scope.frame, h, callFunction, coalesce_toLower, Value.isNull, Value.render,
    bind, Except.bind, pure, Except.pure]

end Comparisons

/-! ## Conjunctions of several conditions -/

theorem all_cons_cons (a b : Expr) (rest : List Expr) :
    Expr.all (a :: b :: rest) = .bin .and a (Expr.all (b :: rest)) := rfl

theorem all_singleton (a : Expr) : Expr.all [a] = a := rfl

end CreditExtraction.Sql
