import Sharding.Proofs.Template.Printing

/-!
# Tokens of a text

Which tokens can be written, and the texts that hold them one after another. Tokenizing such a text
finds the tokens that were written. On every text it takes one blank or one token after another and
ends after at most as many rounds as there are characters, with all tokens of the text or with the
first of its faults.
-/

set_option autoImplicit false

namespace Sharding.Template

/-! ## Writing -/

/-- The tokens that can be written: there is no sign on an integer, a name is made of the
characters of names, and a text leaves one of the quotes to stand around it. -/
def Token.Writable : Token → Prop
  | .int value => 0 ≤ value.toInt
  | .text content => ∃ quote, isQuote quote ∧ quote ∉ content.toList
  | .name word => ∃ first others, word.toList = first :: others ∧ startsName first ∧
      ∀ c ∈ others, continuesName c
  | .plus | .minus | .star | .slash | .percent | .openParen | .closeParen | .openBracket
  | .closeBracket | .comma | .dots => True

variable {c : Char} {chars : List Char} {token : Token} {tokens : List Token}

theorem spellable_iff : Spellable token ↔ token.Writable := by
  constructor
  · rintro ⟨front, spelled⟩
    cases spelled with
    | int _ _ number => exact (Int.natCast_nonneg _).trans_eq number.symm
    | @name first others starts goesOn =>
        exact ⟨first, others, String.toList_ofList, starts, goesOn⟩
    | @text quote content quoted outside =>
        exact ⟨quote, quoted, by rwa [String.toList_ofList]⟩
    | dots => trivial
    | sign isSign => cases token <;> cases isSign <;> exact trivial
  · intro writable
    cases token with
    | int value =>
        refine ⟨Nat.toDigits 10 value.toInt.toNat, .int Nat.toDigits_ne_nil ?_ ?_⟩
        · exact fun digit member => Nat.isDigit_of_mem_toDigits (by decide) (by decide) member
        · rw [Nat.ofDigitChars_ten_toDigits, Int.toNat_of_nonneg writable]
    | name name =>
        obtain ⟨first, others, name_eq, starts, goesOn⟩ := writable
        rw [← String.ofList_toList (s := name), name_eq]
        exact ⟨first :: others, .name starts goesOn⟩
    | text content =>
        obtain ⟨quote, quoted, outside⟩ := writable
        rw [← String.ofList_toList (s := content)]
        exact ⟨_, .text quoted outside⟩
    | dots => exact ⟨['.', '.'], .dots⟩
    | _ => exact .sign rfl

theorem exists_written_iff :
    (∃ chars, Written chars tokens) ↔ ∀ token ∈ tokens, token.Writable := by
  simp only [← spellable_iff]
  refine ⟨fun ⟨chars, written⟩ => written.lexes.spaced.spellable, fun spelled => ?_⟩
  obtain ⟨chars, written⟩ := exists_written_cons spelled
  exact ⟨_, written⟩

/-! ## Rounds -/

/-- The characters behind the position begin with a fault. -/
inductive Faulty (position : Nat) : List Char → LexFault → Prop where
  | lonePoint {rest} : '.' ∉ rest.head? → Faulty position ('.' :: rest) (.lonePoint position)
  | strayChar {c rest} : Text.isBlank c = false → (∀ others token, ¬ Spells (c :: others) token) →
      Faulty position (c :: rest) (.strayChar c)
  | openText {quote rest} : isQuote quote → quote ∉ rest → Faulty position (quote :: rest) .openText
  | largeInt {digits rest} : digits ≠ [] → (∀ digit ∈ digits, digit.isDigit) →
      (∀ c ∈ rest.head?, c.isDigit = false) → ¬ Word.Fits (Nat.ofDigitChars 10 digits 0) →
      Faulty position (digits ++ rest) (.largeInt (String.ofList digits))

/-- The characters behind the position end in the outcome after so many rounds. A round takes a
blank, a token that is as long as it can be, or a fault, which is the last one. -/
inductive EndsIn : Nat → List Char → Nat → Except LexFault (List Token) → Prop where
  | done {position} : EndsIn position [] 0 (.ok [])
  | blank {position c rest rounds outcome} : Text.isBlank c →
      EndsIn (position + 1) rest rounds outcome →
      EndsIn position (c :: rest) (rounds + 1) outcome
  | token {position front token rest rounds outcome} : Spells front token →
      (∀ c ∈ rest.head?, token.continues c = false) →
      EndsIn (position + front.length) rest rounds outcome →
      EndsIn position (front ++ rest) (rounds + 1) (outcome.map (token :: ·))
  | fault {position chars fault} : Faulty position chars fault →
      EndsIn position chars 1 (.error fault)

/-- What is in front of a text: a blank, a token that is as long as it can be, or a fault. -/
inductive Front (position : Nat) : List Char → Prop where
  | blank {c rest} : Text.isBlank c → Front position (c :: rest)
  | token {front token rest} : Spells front token →
      (∀ c ∈ rest.head?, token.continues c = false) → Front position (front ++ rest)
  | fault {chars fault} : Faulty position chars fault → Front position chars

section

variable {position rounds : Nat} {rest : List Char} {fault : LexFault}
  {outcome : Except LexFault (List Token)}

/-! ### Fronts -/

theorem exists_spells_int (nonempty : chars ≠ []) (areDigits : ∀ digit ∈ chars, digit.isDigit)
    (fits : Word.Fits (Nat.ofDigitChars 10 chars 0)) : ∃ value, Spells chars (.int value) :=
  ⟨_, .int nonempty areDigits (Int64.toInt_ofInt_of_le fits.1 fits.2)⟩

/-- The characters that a token begins with. -/
theorem exists_spells_iff : (∃ others token, Spells (c :: others) token) ↔
    c.isDigit ∨ startsName c ∨ isQuote c ∨ c = '.' ∨ ∃ token, Token.ofChar? c = some token := by
  constructor
  · rintro ⟨others, token, spelled⟩
    cases spelled with
    | int _ areDigits => exact .inl (areDigits c List.mem_cons_self)
    | name starts => exact .inr (.inl starts)
    | text quoted => exact .inr (.inr (.inl quoted))
    | dots => exact .inr (.inr (.inr (.inl rfl)))
    | sign isSign => exact .inr (.inr (.inr (.inr ⟨token, Token.ofChar?_eq_some_iff.mpr isSign⟩)))
  · rintro (digit | starts | quoted | rfl | ⟨token, found⟩)
    · have fits : Word.Fits (Nat.ofDigitChars 10 [c] 0) := by
        have most : c.toNat ≤ 57 := (Char.isDigit_iff_toNat.mp digit).2
        rw [Word.Fits, Nat.ofDigitChars_cons, Nat.ofDigitChars_nil]
        omega
      obtain ⟨value, spelled⟩ :=
        exists_spells_int (List.cons_ne_nil c []) (List.forall_mem_singleton.mpr digit) fits
      exact ⟨[], _, spelled⟩
    · exact ⟨[], _, .name starts nofun⟩
    · exact ⟨[c], _, .text quoted List.not_mem_nil⟩
    · exact ⟨['.'], .dots, .dots⟩
    · exact ⟨[], token, .sign (Token.ofChar?_eq_some_iff.mp found)⟩

/-- A text is cut behind the characters of a class at its front. -/
theorem exists_run (member : Char → Bool) (chars : List Char) : ∃ run rest, chars = run ++ rest ∧
    (∀ c ∈ run, member c) ∧ ∀ c ∈ rest.head?, member c = false := by
  refine ⟨chars.takeWhile member, chars.dropWhile member, List.takeWhile_append_dropWhile.symm,
    fun c => List.mem_takeWhile_imp, fun c head => ?_⟩
  have other := List.head?_dropWhile_not member chars
  rwa [Option.mem_def.mp head] at other

theorem front_of_isDigit (digit : c.isDigit) : Front position (c :: rest) := by
  obtain ⟨others, behind, rfl, areDigits, stops⟩ := exists_run Char.isDigit rest
  rw [← List.cons_append]
  have nonempty : c :: others ≠ [] := List.cons_ne_nil c others
  have all : ∀ d ∈ c :: others, d.isDigit := List.forall_mem_cons.mpr ⟨digit, areDigits⟩
  by_cases fits : Word.Fits (Nat.ofDigitChars 10 (c :: others) 0)
  · obtain ⟨value, spelled⟩ := exists_spells_int nonempty all fits
    exact .token spelled stops
  · exact .fault (.largeInt nonempty all stops fits)

theorem front_of_startsName (starts : startsName c) : Front position (c :: rest) := by
  obtain ⟨others, behind, rfl, goesOn, stops⟩ := exists_run continuesName rest
  rw [← List.cons_append]
  exact .token (.name starts goesOn) stops

theorem front_of_isQuote (quoted : isQuote c) : Front position (c :: rest) := by
  by_cases closed : c ∈ rest
  · obtain ⟨content, behind, rfl, outside⟩ := List.eq_append_cons_of_mem closed
    have cut : c :: (content ++ c :: behind) = c :: (content ++ [c]) ++ behind := by simp
    rw [cut]
    exact .token (.text quoted outside) fun _ _ => rfl
  · exact .fault (.openText quoted closed)

theorem front_of_point : Front position ('.' :: rest) := by
  by_cases second : '.' ∈ rest.head?
  · obtain ⟨behind, rfl⟩ := List.head?_eq_some_iff.mp second
    exact .token .dots fun _ _ => rfl
  · exact .fault (.lonePoint second)

/-- Every text that is not empty can be read on. -/
theorem front_cons (position : Nat) (c : Char) (rest : List Char) : Front position (c :: rest) := by
  cases dark : Text.isBlank c with
  | true => exact .blank dark
  | false =>
      by_cases begins : ∃ others token, Spells (c :: others) token
      · rcases exists_spells_iff.mp begins with digit | starts | quoted | rfl | ⟨token, found⟩
        · exact front_of_isDigit digit
        · exact front_of_startsName starts
        · exact front_of_isQuote quoted
        · exact front_of_point
        · have isSign := Token.ofChar?_eq_some_iff.mp found
          exact .token (.sign isSign) fun next _ => Token.continues_of_sign isSign next
      · exact .fault (.strayChar dark fun others token spelled => begins ⟨others, token, spelled⟩)

/-! ### Faults -/

theorem start_of_strayChar (dark : Text.isBlank c = false)
    (stray : ∀ others token, ¬ Spells (c :: others) token) :
    Scan.start position c = .error (.strayChar c) := by
  have none := exists_spells_iff.not.mp fun ⟨others, token, spelled⟩ => stray others token spelled
  simp only [not_or, isQuote, not_exists, ← Option.eq_none_iff_forall_ne_some] at none
  obtain ⟨noDigit, noName, noQuote, noPoint, noSign⟩ := none
  simp [Scan.start, dark, noDigit, noName, noQuote, noPoint, noSign]

theorem finish_of_largeInt (large : ¬ Word.Fits (Nat.ofDigitChars 10 chars 0)) :
    (Scan.int chars.reverse).finish = .error (.largeInt (String.ofList chars)) := by
  rw [Scan.finish, List.reverse_reverse]
  split
  next value found =>
    obtain ⟨-, value_eq, fits⟩ := Word.readDigits_zero_eq_ok_iff.mp found
    have number : value = Nat.ofDigitChars 10 chars 0 := value_eq
    exact absurd (number ▸ fits) large
  next => rfl

namespace Faulty

theorem ne_nil (faulty : Faulty position chars fault) : chars ≠ [] := by
  cases faulty with
  | largeInt nonempty => exact List.append_ne_nil_of_left_ne_nil nonempty _
  | _ => exact List.cons_ne_nil _ _

theorem tokensFrom (faulty : Faulty position chars fault) :
    Template.tokensFrom .between position chars = .error fault := by
  cases faulty with
  | @lonePoint rest alone =>
      have started : Scan.between.step position '.' = .ok ([], .point position) := rfl
      rw [tokensFrom_of_silent started]
      cases rest with
      | nil => rfl
      | cons c rest =>
          have other : c ≠ '.' := fun same => alone (same ▸ rfl)
          rw [tokensFrom_cons, Scan.step, if_neg other]
          rfl
  | strayChar dark stray =>
      rw [tokensFrom_cons, Scan.step, start_of_strayChar dark stray]
      rfl
  | @openText quote rest quoted outside =>
      rw [← List.append_nil rest, tokensFrom_quoted quoted outside]
      rfl
  | largeInt nonempty areDigits stops large =>
      rw [tokensFrom_digits nonempty areDigits stops, finish_of_largeInt large]
      rfl

end Faulty

/-! ### Ends -/

namespace EndsIn

theorem tokensFrom (ends : EndsIn position chars rounds outcome) :
    Template.tokensFrom .between position chars = outcome := by
  induction ends with
  | done => rfl
  | @blank position c _ _ _ blank _ ih =>
      have skipped : Scan.between.step position c = .ok ([], .between) := if_pos blank
      rw [tokensFrom_of_silent skipped, ih]
  | token spelled longest _ ih => rw [spelled.tokensFrom longest, ih]
  | fault faulty => exact faulty.tokensFrom

/-- Every round takes a character at least. -/
theorem rounds_le (ends : EndsIn position chars rounds outcome) : rounds ≤ chars.length := by
  induction ends with
  | done => exact Nat.le_refl 0
  | blank _ _ ih => exact Nat.succ_le_succ ih
  | @token _ front _ _ _ _ spelled _ _ ih =>
      have taken := List.length_pos_iff.mpr spelled.ne_nil
      rw [List.length_append]
      omega
  | fault faulty => exact List.length_pos_iff.mpr faulty.ne_nil

end EndsIn

theorem exists_endsIn (position : Nat) (chars : List Char) :
    ∃ rounds outcome, EndsIn position chars rounds outcome := by
  -- A token takes several characters at once, so the induction is on how many are left.
  induction left : chars.length using Nat.strong_induction_on generalizing position chars with
  | _ size ih =>
      subst left
      cases chars with
      | nil => exact ⟨0, _, .done⟩
      | cons c rest =>
          generalize text : c :: rest = chars at ih ⊢
          have inFront := front_cons position c rest
          rw [text] at inFront
          cases inFront with
          | blank blank =>
              obtain ⟨rounds, outcome, ends⟩ := ih _ (Nat.lt_succ_self _) (position + 1) _ rfl
              exact ⟨rounds + 1, outcome, .blank blank ends⟩
          | @token front token others spelled longest =>
              have taken := List.length_pos_iff.mpr spelled.ne_nil
              have shorter : others.length < (front ++ others).length := by
                rw [List.length_append]
                omega
              obtain ⟨rounds, outcome, ends⟩ := ih _ shorter (position + front.length) others rfl
              exact ⟨rounds + 1, _, .token spelled longest ends⟩
          | fault faulty => exact ⟨1, _, .fault faulty⟩

/-- Every text has one end, which tokenizing finds. -/
theorem endsIn_iff :
    (∃ rounds ≤ chars.length, EndsIn 0 chars rounds outcome) ↔ tokenize chars = outcome := by
  constructor
  · rintro ⟨rounds, -, ends⟩
    exact ends.tokensFrom
  · rintro rfl
    obtain ⟨rounds, outcome, ends⟩ := exists_endsIn 0 chars
    rw [tokenize, ends.tokensFrom]
    exact ⟨rounds, ends.rounds_le, ends⟩

end

/-- Tokens that are written one after another, with any blanks around them and one at least between
two words, are found again, and behind them nothing but the end of the text. All lists of writable
tokens can be written so, and no others. Every text has one end, its tokens or its first fault,
after no more rounds than it has characters, and that is what tokenizing finds. -/
theorem tokenizing_undoes_writing :
    (∀ tokens : List Token,
      (∃ chars, Written chars tokens) ↔ ∀ token ∈ tokens, token.Writable) ∧
    (∀ (chars : List Char) (tokens : List Token),
      Written chars tokens → tokenize chars = .ok tokens) ∧
    ∀ (chars : List Char) (outcome : Except LexFault (List Token)),
      (∃ rounds ≤ chars.length, EndsIn 0 chars rounds outcome) ↔ tokenize chars = outcome :=
  ⟨fun _ => exists_written_iff, fun _ _ written => written.lexes.tokensFrom 0,
    fun _ _ => endsIn_iff⟩

private def mixedText : List Char :=
  ['0', '1', '2'] ++ '\u3000' :: (['x', '\u0663'] ++ (['.', '.'] ++ (['7'] ++
    ['\'', 'a', '"', '\''])))

private def mixedTokens : List Token := [.int 12, .name "x\u0663", .dots, .int 7, .text "a\""]

private theorem mixedText_written : Written mixedText mixedTokens := by
  have number : Spells ['0', '1', '2'] (.int 12) :=
    .int (by decide) (List.all_eq_true.mp (by decide)) (by decide)
  have name : Spells ['x', '\u0663'] (.name "x\u0663") :=
    .name (by decide) (List.forall_mem_singleton.mpr (by decide +kernel))
  have last : Spells ['7'] (.int 7) :=
    .int (by decide) (List.forall_mem_singleton.mpr (by decide)) (by decide)
  have quoted : Spells ['\'', 'a', '"', '\''] (.text "a\"") :=
    @Spells.text '\'' ['a', '"'] (.inl rfl) (by decide)
  refine .token number ?_ (.blank (by decide) (.token name ?_ (.token .dots ?_
    (.token last ?_ (.token quoted nofun .nil)))))
  · exact fun _ _ => .inr ⟨'\u3000', rfl, by decide⟩
  · rintro _ ⟨⟩
    exact .inl (.inr rfl)
  · rintro _ ⟨⟩
    exact .inl (.inl rfl)
  · rintro _ ⟨⟩
    exact .inl (.inr rfl)

private def pointText : List Char :=
  ['a', '5'] ++ ' ' :: (['1'] ++ ['.', '5'])

private theorem pointText_endsIn : EndsIn 0 pointText 4 (.error (.lonePoint 4)) := by
  have name : Spells ['a', '5'] (.name "a5") :=
    .name (by decide) (List.forall_mem_singleton.mpr (by decide))
  have number : Spells ['1'] (.int 1) :=
    .int (by decide) (List.forall_mem_singleton.mpr (by decide)) (by decide)
  have point : Faulty 4 ['.', '5'] (.lonePoint 4) := .lonePoint (by decide)
  refine .token name ?_ (.blank (by decide) (.token number ?_ (.fault point)))
  · rintro _ ⟨⟩
    decide +kernel
  · rintro _ ⟨⟩
    decide

/-- Words with a blank between them and signs and quotes without one, and a point between digits,
which is a fault. -/
theorem mixed_tokens_are_read :
    Written mixedText mixedTokens ∧ (∀ token ∈ mixedTokens, token.Writable) ∧
      tokenize mixedText = .ok mixedTokens ∧
      EndsIn 0 pointText 4 (.error (.lonePoint 4)) ∧
      tokenize pointText = .error (.lonePoint 4) := by
  obtain ⟨canBeWritten, undoes, ends⟩ := tokenizing_undoes_writing
  have written := mixedText_written
  have fault := pointText_endsIn
  exact ⟨written, (canBeWritten _).mp ⟨_, written⟩, undoes _ _ written, fault,
    (ends _ _).mp ⟨4, by decide, fault⟩⟩

end Sharding.Template
