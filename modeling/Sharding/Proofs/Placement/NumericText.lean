import Sharding.Placement.Inline
import Sharding.Proofs.Template.Arithmetic
import Sharding.Proofs.Template.Grammar

/-!
# Numeric texts

A text that reads as an integer selects what the integer selects. Every operator reads its
operands, so the text and the integer part only where a placeholder shows a value as it is, and
there the canonical text of the integer is what the integer shows.
-/

set_option autoImplicit false

namespace Sharding

namespace Template

/-! ## Bindings alike -/

/-- The names have values, or none, in both bindings alike, and arithmetic reads the same in the
values of each name. -/
def Bindings.Alike (first second : Bindings) : Prop :=
  ∀ word, (first word).map Scalar.toInt = (second word).map Scalar.toInt

/-- The placeholder shows the value of a name. -/
def Part.IsName (part : Part) : Prop :=
  ∃ word, part = .placeholder (.single (.name word))

variable {first second : Bindings}

namespace Expression

theorem operandWord_name {bindings : Bindings} {word : String} :
    (name word).operandWord bindings =
      ((bindings word).map Scalar.toInt).getD (.error (.unbound word)) := by
  rw [operandWord, eval]
  cases bindings word <;> rfl

/-- An operand is read alike in bindings that are alike, and refused alike. -/
theorem operandWord_congr (alike : first.Alike second) (operand : Expression) :
    operand.operandWord first = operand.operandWord second := by
  -- The words that operands read as are the same; the values themselves are not, for a name.
  induction operand using operand_induction with
  | int value | text content | list items => rfl
  | name word => rw [operandWord_name, operandWord_name, alike word]
  | neg operand ih => rw [operandWord, operandWord, eval_neg, eval_neg, ih]
  | binary operator left right leftIH rightIH =>
      rw [operandWord, operandWord, eval_binary, eval_binary, leftIH, rightIH]

theorem eval_congr (alike : first.Alike second) {expression : Expression}
    (computed : ∀ word, expression ≠ name word) :
    expression.eval first = expression.eval second := by
  cases expression with
  | int value | text content | list items => rfl
  | name word => exact absurd rfl (computed word)
  | neg operand => rw [eval_neg, eval_neg, operandWord_congr alike]
  | binary operator left right =>
      rw [eval_binary, eval_binary, operandWord_congr alike, operandWord_congr alike]

end Expression

namespace Part

theorem evaluate_name {bindings : Bindings} {word : String} :
    (placeholder (.single (.name word))).evaluate bindings =
      ((bindings word).map Scalar.shown).elim (.error (.evaluation (.unbound word))) .ok := by
  rw [evaluate, Body.eval, Expression.eval]
  cases bindings word <;> rfl

/-- Bindings that are alike are told apart only by a placeholder that shows the value of a name. -/
theorem evaluate_congr (alike : first.Alike second) {part : Part}
    (shown : part.IsName → ∀ word,
      (first word).map Scalar.shown = (second word).map Scalar.shown) :
    part.evaluate first = part.evaluate second := by
  cases part with
  | literal content => rfl
  | placeholder body =>
      cases body with
      | span low high => rfl
      | single expression =>
          by_cases isName : ∃ word, expression = .name word
          · obtain ⟨word, rfl⟩ := isName
            rw [evaluate_name, evaluate_name, shown ⟨word, rfl⟩ word]
          · have computed : ∀ word, expression ≠ .name word := fun word same => isName ⟨word, same⟩
            rw [evaluate, evaluate, Body.eval, Body.eval, Expression.eval_congr alike computed]

end Part

theorem evaluate_congr (alike : first.Alike second) {template : Template}
    (shown : (∃ part ∈ template.parts, part.IsName) → ∀ word,
      (first word).map Scalar.shown = (second word).map Scalar.shown) :
    template.evaluate first = template.evaluate second := by
  rw [evaluate, evaluate, mapM_congr fun part member =>
    Part.evaluate_congr alike fun isName => shown ⟨part, member, isName⟩]

/-! ## Bodies that are names -/

/-- The name in so many parentheses. -/
def nested (word : String) : Nat → List Token
  | 0 => [.name word]
  | depth + 1 => .openParen :: (nested word depth ++ [.closeParen])

theorem derives_nested (word : String) (depth : Nat) :
    Derives .primary (nested word depth) (.name word) := by
  induction depth with
  | zero => exact .name
  | succ depth ih => exact .group (.term (.factor (.operand ih)))

theorem Derives.eq_nested {level : Level} {tokens : List Token} {tree : Expression} {word : String}
    (derived : Derives level tokens tree) (isName : tree = .name word) :
    ∃ depth, tokens = nested word depth := by
  induction derived with
  | name =>
      cases isName
      exact ⟨0, rfl⟩
  | group _ ih =>
      obtain ⟨depth, rfl⟩ := ih isName
      exact ⟨depth + 1, rfl⟩
  | operand _ ih | factor _ ih | term _ ih => exact ih isName
  | int | text | list | negated | product | sum => cases isName

/-- The bodies that are read as a name are a name in any number of parentheses. -/
theorem Body.parse_eq_name_iff {chars : List Char} {word : String} :
    parse chars = .ok (.single (.name word)) ↔ ∃ depth, Lexes chars (nested word depth) := by
  rw [parse_eq_ok_iff]
  constructor
  · rintro ⟨tokens, lexed, derived⟩
    cases derived with
    | single derived =>
        obtain ⟨depth, rfl⟩ := derived.eq_nested rfl
        exact ⟨depth, lexed⟩
  · rintro ⟨depth, lexed⟩
    exact ⟨_, lexed, .single (.term (.factor (.operand (derives_nested word depth))))⟩

theorem Part.ofPiece_body_eq_ok {chars : List Char} {part : Part} :
    ofPiece (.body chars) = .ok part ↔
      ∃ body, Body.parse chars = .ok body ∧ .placeholder body = part := by
  rw [ofPiece]
  cases Body.parse chars <;> simp [Except.map]

theorem Part.isName_iff_of_ofPiece {piece : Piece} {part : Part} (read : ofPiece piece = .ok part) :
    part.IsName ↔ ∃ chars word depth, piece = .body chars ∧ Lexes chars (nested word depth) := by
  cases piece with
  | literal chars =>
      cases read
      exact ⟨fun ⟨_, same⟩ => (by cases same), fun ⟨_, _, _, same, _⟩ => (by cases same)⟩
  | body chars =>
      obtain ⟨body, found, rfl⟩ := ofPiece_body_eq_ok.mp read
      constructor
      · rintro ⟨word, same⟩
        cases same
        obtain ⟨depth, lexed⟩ := Body.parse_eq_name_iff.mp found
        exact ⟨chars, word, depth, rfl, lexed⟩
      · rintro ⟨others, word, depth, same, lexed⟩
        cases same
        cases found.symm.trans (Body.parse_eq_name_iff.mpr ⟨depth, lexed⟩)
        exact ⟨word, rfl⟩
  | unclosed => cases read

/-- A template that is read from a text has a placeholder for a name exactly if the text has one
with nothing but a name in parentheses. -/
theorem exists_isName_iff {source : String} {template : Template}
    (read : parse source = .ok template) : (∃ part ∈ template.parts, part.IsName) ↔
      ∃ chars word depth, Piece.body chars ∈ cut false [] source.toList ∧
        Lexes chars (nested word depth) := by
  obtain ⟨parts, walked, found⟩ := bind_eq_ok.mp read
  cases found
  have paired := mapM_eq_ok_iff.mp walked
  constructor
  · rintro ⟨part, member, isName⟩
    obtain ⟨piece, ofSource, partRead⟩ := exists_left_of_mem paired member
    obtain ⟨chars, word, depth, rfl, lexed⟩ := (Part.isName_iff_of_ofPiece partRead).mp isName
    exact ⟨chars, word, depth, ofSource, lexed⟩
  · rintro ⟨chars, word, depth, ofSource, lexed⟩
    obtain ⟨part, member, partRead⟩ := exists_right_of_mem paired ofSource
    exact ⟨part, member, (Part.isName_iff_of_ofPiece partRead).mpr ⟨chars, word, depth, rfl, lexed⟩⟩

end Template

/-! ## Placements by one column -/

namespace Inline

open Template (Part Piece Lexes cut nested)

variable {inline : Inline} {candidates : List String} {column : String} {first second : Value}

theorem alike_bindings (same : first.toScalar.toInt = second.toScalar.toInt) :
    (bindings column first).Alike (bindings column second) := by
  intro word
  unfold bindings
  split
  next => exact congrArg some same
  next => rfl

/-- Values that read as one integer select alike, if they show alike wherever they are shown. -/
theorem selectEqual_congr (same : first.toScalar.toInt = second.toScalar.toInt)
    (shown : (∃ part ∈ inline.template.parts, part.IsName) →
      first.toScalar.shown = second.toScalar.shown) :
    inline.selectEqual candidates column first = inline.selectEqual candidates column second := by
  have evaluated : inline.template.evaluate (bindings column first) =
      inline.template.evaluate (bindings column second) := by
    refine Template.evaluate_congr (alike_bindings same) fun named word => ?_
    unfold bindings
    split
    next => exact congrArg some (shown named)
    next => rfl
  rw [selectEqual, selectEqual, target, target, Template.target, Template.target, evaluated]

theorem toInt_of_parse? {content : String} {n : Int64}
    (reads : Word.parse? (Text.trim content) = some n) :
    (Value.text content).toScalar.toInt = (Value.int n).toScalar.toInt := by
  change (Template.Scalar.text content).toInt = .ok n
  rw [Template.Scalar.toInt, reads]

/-- A text that reads as an integer selects what the integer selects, or fails as it fails, if no
placeholder is a name only. The canonical text of an integer does so with every template. In the
text of a template, a placeholder that is a name only is a name in any number of parentheses. -/
theorem numeric_texts_select_alike (inline : Inline) (candidates : List String) (column : String) :
    (∀ content n, Word.parse? (Text.trim content) = some n →
      (∀ part ∈ inline.template.parts, ¬ part.IsName) →
      inline.placement.selectEqual candidates column (.text content) =
        inline.placement.selectEqual candidates column (.int n)) ∧
    (∀ n, inline.placement.selectEqual candidates column (.text (Word.text n)) =
      inline.placement.selectEqual candidates column (.int n)) ∧
    ∀ source, Template.parse source = .ok inline.template →
      ((∃ part ∈ inline.template.parts, part.IsName) ↔
        ∃ chars word depth, Piece.body chars ∈ cut false [] source.toList ∧
          Lexes chars (nested word depth)) := by
  refine ⟨fun content n reads unnamed => ?_, fun n => ?_,
    fun source => Template.exists_isName_iff⟩
  · refine selectEqual_congr (toInt_of_parse? reads) ?_
    rintro ⟨part, member, isName⟩
    exact absurd isName (unnamed part member)
  · have reads : Word.parse? (Text.trim (Word.text n)) = some n := by
      rw [Word.trim_text, Word.parse?_text]
    exact selectEqual_congr (toInt_of_parse? reads) fun _ => rfl

private def remainders : Inline where
  template :=
    { source := "t_$\x7b(id + '1') % 4\x7d"
      parts := [.literal "t_", .placeholder (.single (.binary .rem
        (.binary .add (.name "id") (.text "1")) (.int 4)))] }

private def copies : Inline where
  template :=
    { source := "t_$\x7b(id)\x7d"
      parts := [.literal "t_", .placeholder (.single (.name "id"))] }

example : copies.selectEqual ["t_7"] "id" (.text "07") = .ok none := by decide +kernel

private theorem parse_copies : Template.parse copies.template.source = .ok copies.template := by
  have pieces : cut false [] copies.template.source.toList =
      [.literal "t_".toList, .body "(id)".toList] := by
    decide +kernel
  have literal : Part.ofPiece (.literal "t_".toList) = .ok (.literal "t_") := by
    rw [Part.ofPiece, String.ofList_toList]
  have lexed : Lexes "(id)".toList (nested "id" 1) :=
    Template.tokenize_eq_ok_iff.mp (by decide +kernel)
  have placeholder := Part.ofPiece_body_eq_ok.mpr
    ⟨_, Template.Body.parse_eq_name_iff.mpr ⟨1, lexed⟩, rfl⟩
  rw [Template.parse, pieces, List.mapM_cons, literal, List.mapM_cons, placeholder]
  rfl

/-- A text with a sign and blanks is a `7` to a placeholder that computes, and the canonical text
is one to a placeholder that copies. -/
theorem spaced_texts_select_alike :
    remainders.placement.selectEqual ["t_1", "t_0"] "id" (.text " +7\t") = .ok (some "t_0") ∧
      copies.placement.selectEqual ["t_7"] "id" (.text (Word.text 7)) = .ok (some "t_7") ∧
      ∃ chars word depth, Piece.body chars ∈ cut false [] copies.template.source.toList ∧
        Lexes chars (nested word depth) := by
  have computes : ∀ part ∈ remainders.template.parts, ¬ part.IsName := by
    rintro part member ⟨word, rfl⟩
    simp [remainders] at member
  have reads : Word.parse? (Text.trim " +7\t") = some 7 := by decide +kernel
  have anyText := (numeric_texts_select_alike remainders ["t_1", "t_0"] "id").1 _ 7 reads computes
  obtain ⟨-, canonical, written⟩ := numeric_texts_select_alike copies ["t_7"] "id"
  refine ⟨anyText.trans (by decide +kernel), (canonical 7).trans (by decide +kernel), ?_⟩
  exact (written _ parse_copies).mp ⟨_, List.mem_cons_of_mem _ List.mem_cons_self, "id", rfl⟩

end Inline

end Sharding
