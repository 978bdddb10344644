import Mathlib.Data.List.Infix
import Sharding.Proofs.Outcome
import Sharding.Proofs.Template.Grammar

/-!
# Layout of templates

How literals and placeholders are laid out in a text. Whatever is written as literals with
placeholders between them is read as just these, and a text is refused only for a placeholder that
no brace closes or whose body is refused.
-/

set_option autoImplicit false

namespace Sharding.Template

/-! ## Literals and placeholders -/

inductive Opener where
  | short
  | arrow
  deriving DecidableEq, Repr

def Opener.chars : Opener → List Char
  | .short => ['$', '\x7b']
  | .arrow => ['$', '-', '>', '\x7b']

/-- No placeholder is opened in the characters. -/
def IsPlain (chars : List Char) : Prop :=
  ∀ opener : Opener, ¬ opener.chars <:+: chars

instance (chars : List Char) : Decidable (IsPlain chars) :=
  decidable_of_iff (¬ Opener.short.chars <:+: chars ∧ ¬ Opener.arrow.chars <:+: chars)
    ⟨fun plain opener => by cases opener; exacts [plain.1, plain.2],
      fun plain => ⟨plain .short, plain .arrow⟩⟩

/-- A literal, which may be empty, and the placeholder after it. -/
structure Passage where
  literal : List Char
  opener : Opener
  content : List Char
  body : Body
  plain : IsPlain literal
  unbroken : '\x7d' ∉ content
  parsed : Body.parse content = .ok body

def Passage.written (passage : Passage) : List Char :=
  passage.literal ++ passage.opener.chars ++ passage.content ++ ['\x7d']

def Passage.pieces (passage : Passage) : List Piece :=
  Piece.literals passage.literal.reverse ++ [.body passage.content]

def Part.literals (chars : List Char) : List Part :=
  if chars = [] then [] else [.literal (String.ofList chars)]

def Passage.parts (passage : Passage) : List Part :=
  Part.literals passage.literal ++ [.placeholder passage.body]

/-- Passages one after the other and what comes last. -/
def laidOut (passages : List Passage) (last : List Char) : List Char :=
  passages.flatMap Passage.written ++ last

/-- The name with a value in the place of each placeholder. -/
def filledOut (passages : List Passage) (values : List Scalar) (last : List Char) : String :=
  String.join (List.zipWith (fun passage value => String.ofList passage.literal ++ value.shown)
    passages values) ++ String.ofList last

/-- A placeholder that has been opened before these characters stops the reading. -/
inductive Stops : List Char → Fault → Prop where
  | unclosed {rest} : '\x7d' ∉ rest → Stops rest .unclosed
  | refused {content after fault} : '\x7d' ∉ content → Body.parse content = .error fault →
      Stops (content ++ '\x7d' :: after) fault

/-! ## Cuts -/

variable {before literal content rest last chars : List Char} {opener : Opener} {c : Char}
  {passages : List Passage} {fault : Fault}

theorem cut_cons (closed : ∀ opener : Opener, ¬ opener.chars <+: c :: rest) :
    cut false before (c :: rest) = cut false (c :: before) rest := by
  rw [cut, if_neg Bool.false_ne_true]
  · rintro rest rfl rfl
    exact closed .short (List.prefix_append Opener.short.chars rest)
  · rintro rest rfl rfl
    exact closed .arrow (List.prefix_append Opener.arrow.chars rest)

theorem cut_opener : cut false before (opener.chars ++ rest) =
    Piece.literals before ++ cut true [] rest := by
  cases opener <;> simp [Opener.chars, cut]

theorem cut_inside_cons : cut true before (c :: rest) =
    if c = '\x7d' then .body before.reverse :: cut false [] rest
    else cut true (c :: before) rest := by
  rw [cut.eq_def]
  exact if_pos rfl

theorem cut_content (unbroken : '\x7d' ∉ content) :
    cut true before (content ++ '\x7d' :: rest) =
      .body (before.reverse ++ content) :: cut false [] rest := by
  induction content generalizing before with
  | nil => rw [List.nil_append, List.append_nil, cut_inside_cons, if_pos rfl]
  | cons c content ih =>
      have other := List.ne_of_not_mem_cons unbroken
      rw [List.cons_append, cut_inside_cons, if_neg other.symm,
        ih (List.not_mem_of_not_mem_cons unbroken), List.reverse_cons, List.append_assoc,
        List.singleton_append]

theorem cut_unclosed (unbroken : '\x7d' ∉ chars) : cut true before chars = [.unclosed] := by
  induction chars generalizing before with
  | nil => rfl
  | cons c chars ih =>
      have other := List.ne_of_not_mem_cons unbroken
      rw [cut_inside_cons, if_neg other.symm, ih (List.not_mem_of_not_mem_cons unbroken)]

theorem IsPlain.nil : IsPlain [] := by
  intro opener inside
  cases opener <;> cases List.infix_nil.mp inside

theorem IsPlain.of_infix {inner : List Char} (plain : IsPlain chars) (inside : inner <:+: chars) :
    IsPlain inner :=
  fun opener opened => plain opener (opened.trans inside)

theorem IsPlain.of_cons (plain : IsPlain (c :: chars)) : IsPlain chars :=
  plain.of_infix (List.suffix_cons c chars).isInfix

theorem Opener.exists_signs (opener : Opener) :
    ∃ signs, opener.chars = '$' :: signs ∧ '$' ∉ signs := by
  cases opener <;> exact ⟨_, rfl, by decide⟩

/-- An opener does not begin in a literal and end behind it: the literal is followed by the dollar
sign of its own opener, and no opener has a second one. -/
theorem not_prefix_of_isPlain (plain : IsPlain (c :: literal)) (other : Opener) :
    ¬ other.chars <+: c :: (literal ++ opener.chars ++ rest) := by
  intro starts
  obtain ⟨own, own_eq, -⟩ := opener.exists_signs
  obtain ⟨signs, signs_eq, single⟩ := other.exists_signs
  have noSecond : ¬ c :: literal ++ ['$'] <+: other.chars := by
    rw [signs_eq, List.cons_append, List.cons_prefix_cons]
    rintro ⟨-, inside⟩
    exact single (inside.subset (by simp))
  have through : c :: literal ++ ['$'] <+: c :: (literal ++ opener.chars ++ rest) :=
    ⟨own ++ rest, by simp [own_eq]⟩
  rcases List.prefix_or_prefix_of_prefix starts through with shorter | longer
  · rcases List.prefix_concat_iff.mp shorter with same | inside
    · exact noSecond (same ▸ List.prefix_rfl)
    · exact plain other inside.isInfix
  · exact noSecond longer

theorem cut_literal (plain : IsPlain literal) :
    cut false before (literal ++ opener.chars ++ rest) =
      Piece.literals (literal.reverse ++ before) ++ cut true [] rest := by
  induction literal generalizing before with
  | nil => exact cut_opener
  | cons c literal ih =>
      rw [List.cons_append, List.cons_append, cut_cons (not_prefix_of_isPlain plain),
        ih plain.of_cons, List.reverse_cons, List.append_assoc, List.singleton_append]

theorem cut_last (plain : IsPlain last) :
    cut false before last = Piece.literals (last.reverse ++ before) := by
  induction last generalizing before with
  | nil => rfl
  | cons c last ih =>
      rw [cut_cons fun opener starts => plain opener starts.isInfix, ih plain.of_cons,
        List.reverse_cons, List.append_assoc, List.singleton_append]

theorem cut_laidOut (passages : List Passage) (rest : List Char) :
    cut false [] (laidOut passages rest) =
      passages.flatMap Passage.pieces ++ cut false [] rest := by
  induction passages with
  | nil => rfl
  | cons passage passages ih =>
      have written : laidOut (passage :: passages) rest = passage.literal ++ passage.opener.chars ++
          (passage.content ++ '\x7d' :: laidOut passages rest) := by
        simp [laidOut, Passage.written]
      rw [written, cut_literal passage.plain, cut_content passage.unbroken, ih]
      simp [Passage.pieces]

/-! ## Reading -/

theorem mapM_literals (chars : List Char) :
    (Piece.literals chars.reverse).mapM Part.ofPiece = .ok (Part.literals chars) := by
  cases chars with
  | nil => rfl
  | cons c chars =>
      simp [Piece.literals, Part.literals, Part.ofPiece, pure, Except.pure, bind, Except.bind]

theorem mapM_passages (passages : List Passage) :
    (passages.flatMap Passage.pieces).mapM Part.ofPiece = .ok (passages.flatMap Passage.parts) := by
  induction passages with
  | nil => rfl
  | cons passage passages ih =>
      have own : passage.pieces.mapM Part.ofPiece = .ok passage.parts := by
        rw [Passage.pieces, mapM_append_of_eq_ok (mapM_literals _)]
        simp [Part.ofPiece, passage.parsed, Passage.parts, Except.map, pure, Except.pure, bind,
          Except.bind]
      rw [List.flatMap_cons, mapM_append_of_eq_ok own, ih]
      rfl

section Parse

variable {source : String} {template : Template}

theorem parse_of_laidOut (plain : IsPlain last) (layout : source.toList = laidOut passages last) :
    parse source =
      .ok { source, parts := passages.flatMap Passage.parts ++ Part.literals last } := by
  unfold parse
  rw [layout, cut_laidOut, cut_last plain, List.append_nil,
    mapM_append_of_eq_ok (mapM_passages passages), mapM_literals]
  rfl

theorem parse_of_stops (plain : IsPlain literal)
    (layout : source.toList = laidOut passages (literal ++ opener.chars ++ rest))
    (stops : Stops rest fault) : parse source = .error fault := by
  have stopped : (cut true [] rest).mapM Part.ofPiece = .error fault := by
    cases stops with
    | unclosed unbroken =>
        rw [cut_unclosed unbroken]
        rfl
    | refused unbroken refused =>
        rw [cut_content unbroken, List.reverse_nil, List.nil_append, List.mapM_cons, Part.ofPiece,
          refused]
        rfl
  unfold parse
  rw [layout, cut_laidOut, cut_literal plain, List.append_nil,
    mapM_append_of_eq_ok (mapM_passages passages), mapM_append_of_eq_ok (mapM_literals literal),
    stopped]
  rfl

theorem isPlain_or_exists_opener (chars : List Char) :
    IsPlain chars ∨
      ∃ literal opener rest, IsPlain literal ∧ chars = literal ++ Opener.chars opener ++ rest := by
  induction chars with
  | nil => exact .inl .nil
  | cons c chars ih =>
      by_cases opens : ∃ opener : Opener, opener.chars <+: c :: chars
      · obtain ⟨opener, rest, same⟩ := opens
        exact .inr ⟨[], opener, rest, .nil, same.symm⟩
      · have closed : ∀ opener : Opener, ¬ opener.chars <+: c :: chars := by simpa using opens
        rcases ih with plain | ⟨literal, opener, rest, plain, rfl⟩
        · refine .inl fun opener inside => ?_
          rcases List.infix_cons_iff.mp inside with starts | later
          · exact closed opener starts
          · exact plain opener later
        · refine .inr ⟨c :: literal, opener, rest, fun other inside => ?_, by simp⟩
          rcases List.infix_cons_iff.mp inside with starts | later
          · refine closed other (starts.trans ⟨opener.chars ++ rest, by simp⟩)
          · exact plain other later

/-- Every text is passages one after the other, up to its end or to a placeholder that stops. -/
theorem exists_layout (chars : List Char) :
    (∃ passages last, IsPlain last ∧ chars = laidOut passages last) ∨
      ∃ passages literal opener rest fault, IsPlain literal ∧
        chars = laidOut passages (literal ++ Opener.chars opener ++ rest) ∧ Stops rest fault := by
  rcases isPlain_or_exists_opener chars with plain | ⟨literal, opener, rest, plain, same⟩
  · exact .inl ⟨[], chars, plain, rfl⟩
  by_cases closed : '\x7d' ∈ rest
  · obtain ⟨content, after, rfl, unbroken⟩ := List.eq_append_cons_of_mem closed
    cases parsed : Body.parse content with
    | error fault =>
        exact .inr ⟨[], literal, opener, _, fault, plain, same, .refused unbroken parsed⟩
    | ok body =>
        let passage : Passage := { literal, opener, content, body, plain, unbroken, parsed }
        have shorter : after.length < chars.length := by
          rw [same]
          simp only [List.length_append, List.length_cons]
          omega
        have longer : ∀ passages others, after = laidOut passages others →
            chars = laidOut (passage :: passages) others := by
          rintro passages others rfl
          simp [same, passage, laidOut, Passage.written]
        rcases exists_layout after with ⟨passages, last, whole, layout⟩ |
          ⟨passages, later, second, rest, fault, whole, layout, stops⟩
        · exact .inl ⟨passage :: passages, last, whole, longer _ _ layout⟩
        · exact .inr ⟨passage :: passages, later, second, rest, fault, whole, longer _ _ layout,
            stops⟩
  · exact .inr ⟨[], literal, opener, rest, .unclosed, plain, same, .unclosed closed⟩
termination_by chars.length

theorem parse_eq_ok_iff : parse source = .ok template ↔
    ∃ passages last, IsPlain last ∧ source.toList = laidOut passages last ∧
      template = { source, parts := passages.flatMap Passage.parts ++ Part.literals last } := by
  constructor
  · intro parsed
    rcases exists_layout source.toList with ⟨passages, last, plain, layout⟩ |
      ⟨passages, literal, opener, rest, fault, plain, layout, stops⟩
    · rw [parse_of_laidOut plain layout] at parsed
      exact ⟨passages, last, plain, layout, (Except.ok.inj parsed).symm⟩
    · rw [parse_of_stops plain layout stops] at parsed
      cases parsed
  · rintro ⟨passages, last, plain, layout, rfl⟩
    exact parse_of_laidOut plain layout

theorem parse_eq_error_iff : parse source = .error fault ↔
    ∃ passages literal opener rest, IsPlain literal ∧
      source.toList = laidOut passages (literal ++ Opener.chars opener ++ rest) ∧
      Stops rest fault := by
  constructor
  · intro refused
    rcases exists_layout source.toList with ⟨passages, last, plain, layout⟩ |
      ⟨passages, literal, opener, rest, other, plain, layout, stops⟩
    · rw [parse_of_laidOut plain layout] at refused
      cases refused
    · rw [parse_of_stops plain layout stops] at refused
      cases refused
      exact ⟨passages, literal, opener, rest, plain, layout, stops⟩
  · rintro ⟨passages, literal, opener, rest, plain, layout, stops⟩
    exact parse_of_stops plain layout stops

end Parse

/-! ## Values -/

section Evaluate

variable {bindings : Bindings} {name : String} {parts others : List Part}

def evaluateParts (bindings : Bindings) (parts : List Part) : Except Fault String := do
  return String.join (← parts.mapM (Part.evaluate bindings))

theorem evaluateParts_append_eq_ok_iff : evaluateParts bindings (parts ++ others) = .ok name ↔
    ∃ first, evaluateParts bindings parts = .ok first ∧
      ∃ later, evaluateParts bindings others = .ok later ∧ first ++ later = name := by
  simp only [evaluateParts, List.mapM_append, bind_eq_ok, pure_eq_ok]
  constructor
  · rintro ⟨_, ⟨texts, first, more, later, rfl⟩, rfl⟩
    exact ⟨_, ⟨texts, first, rfl⟩, _, ⟨more, later, rfl⟩, String.join_append.symm⟩
  · rintro ⟨_, ⟨texts, first, rfl⟩, _, ⟨more, later, rfl⟩, rfl⟩
    exact ⟨_, ⟨texts, first, more, later, rfl⟩, String.join_append⟩

theorem evaluateParts_singleton (part : Part) :
    evaluateParts bindings [part] = part.evaluate bindings := by
  rw [evaluateParts, List.mapM_cons, List.mapM_nil]
  cases part.evaluate bindings with
  | error fault => rfl
  | ok text => exact congrArg Except.ok (by simp [String.join_cons, String.join_nil])

theorem evaluateParts_literals (chars : List Char) :
    evaluateParts bindings (Part.literals chars) = .ok (String.ofList chars) := by
  unfold Part.literals
  split
  next empty =>
    subst empty
    rfl
  next => exact evaluateParts_singleton _

theorem Part.evaluate_placeholder_eq_ok_iff {body : Body} :
    (Part.placeholder body).evaluate bindings = .ok name ↔
      ∃ value, body.eval bindings = .ok value ∧ value.shown = name := by
  rw [Part.evaluate]
  cases body.eval bindings <;> simp

theorem evaluateParts_passage_eq_ok_iff {passage : Passage} :
    evaluateParts bindings passage.parts = .ok name ↔
      ∃ value, passage.body.eval bindings = .ok value ∧
        String.ofList passage.literal ++ value.shown = name := by
  simp only [Passage.parts, evaluateParts_append_eq_ok_iff, evaluateParts_literals,
    evaluateParts_singleton, Part.evaluate_placeholder_eq_ok_iff, Except.ok.injEq, exists_eq_left']
  constructor
  · rintro ⟨_, ⟨value, found, rfl⟩, same⟩
    exact ⟨value, found, same⟩
  · rintro ⟨value, found, same⟩
    exact ⟨_, ⟨value, found, rfl⟩, same⟩

theorem filledOut_cons {passage : Passage} {value : Scalar} {values : List Scalar} :
    filledOut (passage :: passages) (value :: values) last =
      String.ofList passage.literal ++ value.shown ++ filledOut passages values last := by
  rw [filledOut, List.zipWith_cons_cons, String.join_cons, String.append_assoc, filledOut]

theorem evaluateParts_eq_ok_iff :
    evaluateParts bindings (passages.flatMap Passage.parts ++ Part.literals last) = .ok name ↔
      ∃ values, List.Forall₂ (fun passage value => passage.body.eval bindings = .ok value)
        passages values ∧ filledOut passages values last = name := by
  induction passages generalizing name with
  | nil => simp [evaluateParts_literals, filledOut]
  | cons passage passages ih =>
      rw [List.flatMap_cons, List.append_assoc, evaluateParts_append_eq_ok_iff]
      simp only [evaluateParts_passage_eq_ok_iff, ih, List.forall₂_cons_left_iff]
      constructor
      · rintro ⟨_, ⟨value, found, rfl⟩, _, ⟨values, others, rfl⟩, rfl⟩
        exact ⟨value :: values, ⟨value, values, found, others, rfl⟩, filledOut_cons⟩
      · rintro ⟨_, ⟨value, values, found, others, rfl⟩, rfl⟩
        exact ⟨_, ⟨value, found, rfl⟩, _, ⟨values, others, rfl⟩, filledOut_cons.symm⟩

end Evaluate

/-- Texts that are written as literals with placeholders between them are read as just these, and
stand for the literals and the placeholders' values in their order if all placeholders have values.
A text is refused only where a placeholder that no brace closes, or whose body is refused, is
opened after such literals and placeholders. -/
theorem templates_are_cut_at_placeholders :
    (∀ passages last, IsPlain last → ∃ template,
      parse (String.ofList (laidOut passages last)) = .ok template ∧
      template.parts = passages.flatMap Passage.parts ++ Part.literals last ∧
      ∀ bindings,
        (∀ name, template.evaluate bindings = .ok name ↔ ∃ values,
          List.Forall₂ (fun passage value => passage.body.eval bindings = .ok value)
            passages values ∧ filledOut passages values last = name) ∧
        ((∃ fault, template.evaluate bindings = .error fault) ↔
          ∃ passage ∈ passages, ∃ fault, passage.body.eval bindings = .error fault)) ∧
    ∀ source fault, parse source = .error fault ↔
      ∃ passages literal opener rest, IsPlain literal ∧
        source.toList = laidOut passages (literal ++ Opener.chars opener ++ rest) ∧
        Stops rest fault := by
  refine ⟨fun passages last plain => ?_, fun source fault => parse_eq_error_iff⟩
  refine ⟨_, parse_of_laidOut plain String.toList_ofList, rfl, fun bindings => ⟨?_, ?_⟩⟩
  · exact fun name => evaluateParts_eq_ok_iff
  · calc
      _ ↔ ¬ ∃ name, evaluateParts bindings (passages.flatMap Passage.parts ++ Part.literals last) =
            .ok name := exists_error_iff
      _ ↔ ¬ ∃ values, List.Forall₂ (fun passage value => passage.body.eval bindings = .ok value)
            passages values := by simp [evaluateParts_eq_ok_iff]
      _ ↔ ¬ ∀ passage ∈ passages, ∃ value, passage.body.eval bindings = .ok value := by
          rw [exists_forall₂_iff]
      _ ↔ _ := by simp only [exists_error_iff, not_forall, exists_prop]

private def columnPassage : Passage where
  literal := "a$".toList
  opener := .short
  content := "x".toList
  body := .single (.name "x")
  plain := by decide +kernel
  unbroken := by decide +kernel
  parsed := Body.parse_eq_ok_iff.mpr ⟨[.name "x"], tokenize_eq_ok_iff.mp (by decide +kernel),
    .single (.term (.factor (.operand .name)))⟩

private def textPassage : Passage where
  literal := "$->".toList
  opener := .arrow
  content := " '$\x7b'".toList
  body := .single (.text "$\x7b")
  plain := by decide +kernel
  unbroken := by decide +kernel
  parsed := Body.parse_eq_ok_iff.mpr ⟨[.text "$\x7b"], tokenize_eq_ok_iff.mp (by decide +kernel),
    .single (.term (.factor (.operand .text)))⟩

theorem dollars_are_cut_at_placeholders :
    (∃ template, parse "a$$\x7bx\x7d$->$->\x7b '$\x7b'\x7d$-" = .ok template ∧
      template.evaluate (fun _ => some (.int 5)) = .ok "a$5$->$\x7b$-" ∧
      ∃ fault, template.evaluate unbound = .error fault) ∧
    parse "a$$\x7bx\x7d$$\x7b'" = .error .unclosed := by
  obtain ⟨cuts, refuses⟩ := templates_are_cut_at_placeholders
  obtain ⟨template, parsed, -, stands⟩ :=
    cuts [columnPassage, textPassage] "$-".toList (by decide +kernel)
  have text : String.ofList (laidOut [columnPassage, textPassage] "$-".toList) =
      "a$$\x7bx\x7d$->$->\x7b '$\x7b'\x7d$-" := by decide +kernel
  have named : filledOut [columnPassage, textPassage] [.int 5, .text "$\x7b"] "$-".toList =
      "a$5$->$\x7b$-" := by decide +kernel
  have values : List.Forall₂
      (fun passage value => passage.body.eval (fun _ => some (.int 5)) = .ok value)
      [columnPassage, textPassage] [.int 5, .text "$\x7b"] := .cons rfl (.cons rfl .nil)
  refine ⟨⟨template, text ▸ parsed, ((stands _).1 _).mpr ⟨_, values, named⟩, ?_⟩, ?_⟩
  · exact (stands unbound).2.mpr ⟨columnPassage, List.mem_cons_self, _, rfl⟩
  · exact (refuses _ _).mpr ⟨[columnPassage], "$".toList, .short, ['\''], by decide +kernel,
      by decide +kernel, .unclosed (by decide)⟩

end Sharding.Template
