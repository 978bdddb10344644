import Sharding.Proofs.Outcome
import Sharding.Proofs.Word.Decimal
import Sharding.Template.Token
import Mathlib.Data.List.Chain

/-!
# Spellings of tokens

Which characters spell a token, and which texts consist of given tokens with blanks between them.
The scanner reads a text as the tokens that it consists of if every token is as long as it can be.
-/

set_option autoImplicit false

namespace Sharding

namespace Template

/-! ## Classes of characters -/

section Classes

variable {c : Char}

/-- The code points of blank characters. -/
def blankCodes : List Nat :=
  List.range' 9 5 ++ [0x20, 0x85, 0xA0, 0x1680] ++ List.range' 0x2000 11 ++
    [0x2028, 0x2029, 0x202F, 0x205F, 0x3000]

theorem isBlank_iff : Text.isBlank c ↔ c.toNat ∈ blankCodes := by
  simp only [Text.isBlank, Bool.or_eq_true, Bool.and_eq_true, decide_eq_true_eq, beq_iff_eq,
    blankCodes, List.mem_append, List.mem_range'_1, List.mem_cons, List.not_mem_nil, or_false,
    ← Char.toNat_val]
  omega

theorem continuesName_of_isBlank (blank : Text.isBlank c) : continuesName c = false := by
  have all : ∀ code ∈ blankCodes, continuesName (Char.ofNat code) = false := by decide +kernel
  rw [← Char.ofNat_toNat c]
  exact all _ (isBlank_iff.mp blank)

theorem continuesName_of_isDigit (digit : c.isDigit) : continuesName c := by
  simp [continuesName, Text.isAlphanumeric, digit]

theorem continuesName_of_startsName (starts : startsName c) : continuesName c := by
  rw [startsName, Bool.or_eq_true] at starts
  rw [continuesName, Bool.or_eq_true]
  exact starts.imp_left Text.isAlphanumeric_of_isAlphabetic

theorem isBlank_of_continuesName (continues : continuesName c) : Text.isBlank c = false := by
  rw [← Bool.not_eq_true]
  intro blank
  rw [continuesName_of_isBlank blank] at continues
  cases continues

theorem isDigit_of_startsName (starts : startsName c) : c.isDigit = false := by
  have all : ∀ code ∈ List.range' 48 10, startsName (Char.ofNat code) = false := by decide +kernel
  rw [← Bool.not_eq_true]
  intro digit
  obtain ⟨least, most⟩ := Char.isDigit_iff_toNat.mp digit
  have none := all c.toNat (List.mem_range'_1.mpr ⟨least, Nat.lt_succ_of_le most⟩)
  rw [Char.ofNat_toNat, starts] at none
  cases none

end Classes

/-! ## Spellings -/

namespace Token

/-- The character that a sign is. -/
def sign? : Token → Option Char
  | .plus => some '+'
  | .minus => some '-'
  | .star => some '*'
  | .slash => some '/'
  | .percent => some '%'
  | .openParen => some '('
  | .closeParen => some ')'
  | .openBracket => some '['
  | .closeBracket => some ']'
  | .comma => some ','
  | .int _ | .text _ | .name _ | .dots => none

/-- The token would be longer if the character stood behind it. -/
def continues : Token → Char → Bool
  | .int _, c => c.isDigit
  | .name _, c => continuesName c
  | _, _ => false

theorem ofChar?_eq_some_iff {c : Char} {token : Token} :
    ofChar? c = some token ↔ token.sign? = some c := by
  constructor
  · intro found
    unfold ofChar? at found
    split at found <;> cases found <;> rfl
  · intro sign
    cases token <;> cases sign <;> rfl

theorem continues_of_sign {c : Char} {token : Token} (sign : token.sign? = some c) (next : Char) :
    token.continues next = false := by
  cases token <;> cases sign <;> rfl

end Token

def isQuote (c : Char) : Prop := c = '\'' ∨ c = '"'

/-- The characters spell the token. -/
inductive Spells : List Char → Token → Prop where
  | int {digits} {value : Int64} : digits ≠ [] → (∀ digit ∈ digits, digit.isDigit) →
      value.toInt = Nat.ofDigitChars 10 digits 0 → Spells digits (.int value)
  | name {first others} : startsName first → (∀ c ∈ others, continuesName c) →
      Spells (first :: others) (.name (String.ofList (first :: others)))
  | text {quote content} : isQuote quote → quote ∉ content →
      Spells (quote :: (content ++ [quote])) (.text (String.ofList content))
  | dots : Spells ['.', '.'] .dots
  | sign {c token} : token.sign? = some c → Spells [c] token

/-- The characters are blanks and spellings of the tokens. -/
inductive Spaced : List Char → List Token → Prop where
  | nil : Spaced [] []
  | blank {c rest tokens} : Text.isBlank c → Spaced rest tokens → Spaced (c :: rest) tokens
  | token {front token rest tokens} : Spells front token → Spaced rest tokens →
      Spaced (front ++ rest) (token :: tokens)

/-- The characters are blanks and spellings of the tokens, none of which could go on longer. -/
inductive Lexes : List Char → List Token → Prop where
  | nil : Lexes [] []
  | blank {c rest tokens} : Text.isBlank c → Lexes rest tokens → Lexes (c :: rest) tokens
  | token {front token rest tokens} : Spells front token →
      (∀ c ∈ rest.head?, token.continues c = false) → Lexes rest tokens →
      Lexes (front ++ rest) (token :: tokens)

/-! ## Steps of the scanner -/

section Steps

variable {scan next : Scan} {position : Nat} {c : Char} {held rest : List Char}
  {completed ended tokens : List Token}

theorem tokensFrom_cons_eq_ok : tokensFrom scan position (c :: rest) = .ok tokens ↔
    ∃ completed next others, scan.step position c = .ok (completed, next) ∧
      tokensFrom next (position + 1) rest = .ok others ∧ completed ++ others = tokens := by
  simp only [tokensFrom, bind_eq_ok, pure_eq_ok, Prod.exists, exists_and_left]

namespace Scan

theorem close_eq_ok : scan.close position c = .ok (completed, next) ↔
    ∃ ended begun, scan.finish = .ok ended ∧ start position c = .ok (begun, next) ∧
      ended ++ begun = completed := by
  simp only [close, bind_eq_ok, pure_eq_ok, Prod.exists, Prod.mk.injEq]
  constructor
  · rintro ⟨ended, finished, begun, _, started, same, rfl⟩
    exact ⟨ended, begun, finished, started, same⟩
  · rintro ⟨ended, begun, finished, started, same⟩
    exact ⟨ended, finished, begun, next, started, same, rfl⟩

theorem finish_int_eq_ok : finish (.int held) = .ok ended ↔
    ∃ value : Int64, (∀ digit ∈ held, digit.isDigit) ∧
      value.toInt = Nat.ofDigitChars 10 held.reverse 0 ∧ [.int value] = ended := by
  rw [finish]
  split
  next number found =>
    obtain ⟨areDigits, signed_eq, fits⟩ := Word.readDigits_zero_eq_ok_iff.mp found
    have number_eq : number = Nat.ofDigitChars 10 held.reverse 0 := signed_eq
    have value := Int64.toInt_ofInt_of_le fits.1 fits.2
    rw [Except.ok.injEq]
    constructor
    · exact fun same => ⟨_, by simpa using areDigits, value.trans number_eq, same⟩
    · rintro ⟨word, -, word_eq, rfl⟩
      rw [number_eq, ← word_eq, Int64.ofInt_toInt]
  next fault missing =>
    refine ⟨nofun, fun ⟨value, areDigits, value_eq, _⟩ => ?_⟩
    have found : Word.readDigits false 0 held.reverse = .ok value.toInt :=
      Word.readDigits_zero_eq_ok_iff.mpr
        ⟨by simpa using areDigits, value_eq, Word.fits_toInt value⟩
    rw [found] at missing
    cases missing

theorem start_of_isDigit (digit : c.isDigit) : start position c = .ok ([], .int [c]) := by
  have notBlank := isBlank_of_continuesName (continuesName_of_isDigit digit)
  simp [start, notBlank, digit]

theorem start_of_startsName (starts : startsName c) : start position c = .ok ([], .name [c]) := by
  have notBlank := isBlank_of_continuesName (continuesName_of_startsName starts)
  simp [start, notBlank, isDigit_of_startsName starts, starts]

theorem start_of_isQuote (quote : isQuote c) : start position c = .ok ([], .text c []) := by
  rcases quote with rfl | rfl <;> rfl

theorem start_of_sign {token : Token} (sign : token.sign? = some c) :
    start position c = .ok ([token], .between) := by
  cases token <;> cases sign <;> rfl

end Scan

end Steps

/-! ## The scanner finds what is spelled -/

section Complete

variable {scan next : Scan} {position : Nat} {c : Char} {rest chars : List Char}
  {completed tokens : List Token}

theorem tokensFrom_cons : tokensFrom scan position (c :: rest) =
    scan.step position c >>= fun stepped =>
      (tokensFrom stepped.2 (position + 1) rest).map (stepped.1 ++ ·) := by
  rw [tokensFrom]
  cases scan.step position c with
  | error fault => rfl
  | ok stepped =>
      change (tokensFrom stepped.2 (position + 1) rest >>= _) = Except.map _ _
      cases tokensFrom stepped.2 (position + 1) rest <;> rfl

theorem tokensFrom_of_step (stepped : scan.step position c = .ok (completed, next)) :
    tokensFrom scan position (c :: rest) =
      (tokensFrom next (position + 1) rest).map (completed ++ ·) := by
  rw [tokensFrom_cons, stepped]
  rfl

theorem tokensFrom_of_silent (stepped : scan.step position c = .ok ([], next)) :
    tokensFrom scan position (c :: rest) = tokensFrom next (position + 1) rest := by
  rw [tokensFrom_of_step stepped]
  cases tokensFrom next (position + 1) rest <;> rfl

/-- The scanner stays in the middle of a token as long as its characters continue it. -/
theorem tokensFrom_append {state : List Char → Scan}
    (stays : ∀ c ∈ chars, ∀ held position,
      (state held).step position c = .ok ([], state (c :: held)))
    (held : List Char) (position : Nat) :
    tokensFrom (state held) position (chars ++ rest) =
      tokensFrom (state (chars.reverse ++ held)) (position + chars.length) rest := by
  induction chars generalizing held position with
  | nil => rfl
  | cons c chars ih =>
      obtain ⟨first, later⟩ := List.forall_mem_cons.mp stays
      rw [List.cons_append, tokensFrom_of_silent (first held position), ih later,
        List.reverse_cons, List.append_assoc, List.singleton_append, List.length_cons,
        Nat.add_right_comm, Nat.add_assoc]

/-- A token ends before whatever cannot continue it. -/
theorem tokensFrom_close
    (closes : ∀ c ∈ rest.head?, scan.step position c = scan.close position c) :
    tokensFrom scan position rest =
      scan.finish >>= fun ended => (tokensFrom .between position rest).map (ended ++ ·) := by
  cases rest with
  | nil =>
      rw [tokensFrom]
      cases scan.finish with
      | error fault => rfl
      | ok ended => exact congrArg Except.ok (List.append_nil ended).symm
  | cons c rest =>
      rw [tokensFrom_cons, closes c rfl, tokensFrom_cons, Scan.close, Scan.step]
      cases scan.finish with
      | error fault => rfl
      | ok ended =>
          cases Scan.start position c with
          | error fault => rfl
          | ok begun =>
              change Except.map _ _ = Except.map _ (Except.map _ _)
              cases tokensFrom begun.2 (position + 1) rest with
              | error fault => rfl
              | ok others => exact congrArg Except.ok (List.append_assoc ended begun.1 others)

/-- Characters of a class that continues a token are held until one outside comes. -/
theorem tokensFrom_run {state : List Char → Scan} {member : Char → Bool}
    (runs : ∀ held position c, (state held).step position c =
      if member c then .ok ([], state (c :: held)) else (state held).close position c)
    (inside : ∀ c ∈ chars, member c) (outside : ∀ c ∈ rest.head?, member c = false)
    (held : List Char) (position : Nat) :
    tokensFrom (state held) position (chars ++ rest) =
      (state (chars.reverse ++ held)).finish >>= fun ended =>
        (tokensFrom .between (position + chars.length) rest).map (ended ++ ·) := by
  rw [tokensFrom_append fun c among held position => ?_, tokensFrom_close fun c head => ?_]
  · rw [runs, if_neg (by simp [outside c head])]
  · rw [runs, if_pos (inside c among)]

theorem tokensFrom_digits (nonempty : chars ≠ []) (areDigits : ∀ digit ∈ chars, digit.isDigit)
    (stops : ∀ c ∈ rest.head?, c.isDigit = false) (position : Nat) :
    tokensFrom .between position (chars ++ rest) =
      (Scan.int chars.reverse).finish >>= fun ended =>
        (tokensFrom .between (position + chars.length) rest).map (ended ++ ·) := by
  obtain ⟨digit, digits, rfl⟩ := List.exists_cons_of_ne_nil nonempty
  obtain ⟨first, later⟩ := List.forall_mem_cons.mp areDigits
  have started : Scan.between.step position digit = .ok ([], .int [digit]) :=
    Scan.start_of_isDigit first
  rw [List.cons_append, tokensFrom_of_silent started,
    tokensFrom_run (fun _ _ _ => rfl) later stops, List.reverse_cons, List.length_cons,
    Nat.add_right_comm, Nat.add_assoc]

theorem tokensFrom_quoted {quote : Char} (isQuote : isQuote quote) (inside : quote ∉ chars)
    (position : Nat) : tokensFrom .between position (quote :: (chars ++ rest)) =
      tokensFrom (.text quote chars.reverse) (position + 1 + chars.length) rest := by
  have started : Scan.between.step position quote = .ok ([], .text quote []) :=
    Scan.start_of_isQuote isQuote
  have stays : ∀ c ∈ chars, ∀ held position,
      (Scan.text quote held).step position c = .ok ([], .text quote (c :: held)) := by
    intro c member held position
    have different : c ≠ quote := fun same => inside (same ▸ member)
    exact if_neg different
  rw [tokensFrom_of_silent started, tokensFrom_append stays, List.append_nil]

/-- What is spelled is found, and the scan goes on behind it. -/
theorem Spells.tokensFrom {front : List Char} {token : Token} (spelled : Spells front token)
    (ends : ∀ c ∈ rest.head?, token.continues c = false) (position : Nat) :
    Template.tokensFrom .between position (front ++ rest) =
      (Template.tokensFrom .between (position + front.length) rest).map (token :: ·) := by
  cases spelled with
  | @int digits value nonempty areDigits number =>
      have finished : Scan.finish (.int front.reverse) = .ok [.int value] :=
        Scan.finish_int_eq_ok.mpr
          ⟨value, by simpa using areDigits, by rwa [List.reverse_reverse], rfl⟩
      rw [tokensFrom_digits nonempty areDigits ends, finished]
      rfl
  | @name first later starts goesOn =>
      have started : Scan.between.step position first = .ok ([], .name [first]) :=
        Scan.start_of_startsName starts
      have finished : Scan.finish (.name (later.reverse ++ [first])) =
          .ok [.name (String.ofList (first :: later))] := by
        simp [Scan.finish]
      rw [List.cons_append, tokensFrom_of_silent started,
        tokensFrom_run (fun _ _ _ => rfl) goesOn ends, finished, List.length_cons,
        Nat.add_right_comm, Nat.add_assoc]
      rfl
  | @text quote content isQuote inside =>
      have closed : (Scan.text quote content.reverse).step (position + 1 + content.length) quote =
          .ok ([.text (String.ofList content)], .between) := by
        simp [Scan.step]
      rw [List.cons_append, List.append_assoc, tokensFrom_quoted isQuote inside,
        List.singleton_append, tokensFrom_of_step closed, List.length_cons, List.length_append,
        List.length_singleton, Nat.add_assoc, Nat.add_right_comm]
      rfl
  | dots =>
      have started : Scan.between.step position '.' = .ok ([], .point position) := rfl
      have closed : (Scan.point position).step (position + 1) '.' = .ok ([.dots], .between) := rfl
      rw [List.cons_append, tokensFrom_of_silent started, List.singleton_append,
        tokensFrom_of_step closed]
      rfl
  | @sign c token isSign =>
      have started : Scan.between.step position c = .ok ([token], .between) :=
        Scan.start_of_sign isSign
      rw [List.singleton_append, tokensFrom_of_step started]
      rfl

theorem Lexes.tokensFrom (lexed : Lexes chars tokens) (position : Nat) :
    Template.tokensFrom .between position chars = .ok tokens := by
  induction lexed generalizing position with
  | nil => rfl
  | @blank c rest tokens blank _ ih =>
      have skipped : Scan.between.step position c = .ok ([], .between) := if_pos blank
      rw [tokensFrom_of_silent skipped, ih]
  | token spelled ends _ ih =>
      rw [spelled.tokensFrom ends, ih]
      rfl

end Complete

/-! ## What the scanner finds is spelled -/

namespace Scan

/-- The characters of the token that the scanner is in the middle of. -/
def read : Scan → List Char
  | .between => []
  | .int digits => digits.reverse
  | .name chars => chars.reverse
  | .text quote chars => quote :: chars.reverse
  | .point _ => ['.']

/-- The characters read are the start of a token. -/
def Valid : Scan → Prop
  | .between | .point _ => True
  | .int digits => digits ≠ [] ∧ ∀ digit ∈ digits, digit.isDigit
  | .name chars => ∃ first others, chars.reverse = first :: others ∧ startsName first ∧
      ∀ c ∈ others, continuesName c
  | .text quote chars => isQuote quote ∧ quote ∉ chars

variable {scan next : Scan} {position : Nat} {c : Char} {chars rest : List Char}
  {completed begun ended tokens : List Token}

/-- What is read after a step of the scanner goes on from what was read before it. -/
def Continues (scan next : Scan) (c : Char) (completed : List Token) : Prop :=
  next.Valid ∧ ∀ rest tokens, Lexes (next.read ++ rest) tokens →
    Lexes (scan.read ++ c :: rest) (completed ++ tokens)

/-- The token that ends is spelled by what has been read of it. -/
theorem lexes_of_finish (valid : scan.Valid) (finished : scan.finish = .ok ended)
    (ends : ∀ c ∈ rest.head?, ∀ token ∈ ended, token.continues c = false)
    (lexed : Lexes rest tokens) : Lexes (scan.read ++ rest) (ended ++ tokens) := by
  cases scan with
  | between =>
      cases finished
      exact lexed
  | int digits =>
      obtain ⟨value, areDigits, number, rfl⟩ := finish_int_eq_ok.mp finished
      have spelled : Spells digits.reverse (.int value) :=
        .int (by simpa using valid.1) (by simpa using areDigits) number
      exact .token spelled (fun c head => ends c head _ List.mem_cons_self) lexed
  | name chars =>
      cases finished
      obtain ⟨first, others, chars_eq, starts, goesOn⟩ := valid
      rw [read]
      rw [chars_eq] at ends ⊢
      exact .token (.name starts goesOn) (fun c head => ends c head _ List.mem_cons_self) lexed
  | text quote chars => cases finished
  | point start => cases finished

theorem continues_of_start (started : start position c = .ok (begun, next)) :
    Continues .between next c begun := by
  unfold start at started
  split at started
  next blank =>
    cases started
    exact ⟨trivial, fun rest tokens lexed => .blank blank lexed⟩
  split at started
  next digit =>
    cases started
    exact ⟨⟨List.cons_ne_nil _ _, by simpa using digit⟩, fun rest tokens lexed => lexed⟩
  split at started
  next starts =>
    cases started
    exact ⟨⟨c, [], rfl, starts, nofun⟩, fun rest tokens lexed => lexed⟩
  split at started
  next quote =>
    cases started
    exact ⟨⟨by simpa [isQuote] using quote, nofun⟩, fun rest tokens lexed => lexed⟩
  split at started
  next point =>
    cases started
    cases point
    exact ⟨trivial, fun rest tokens lexed => lexed⟩
  split at started
  next token found =>
    cases started
    refine ⟨trivial, fun rest tokens lexed => ?_⟩
    have isSign := Token.ofChar?_eq_some_iff.mp found
    have longer : Lexes ([c] ++ rest) (token :: tokens) :=
      .token (.sign isSign) (fun c _ => Token.continues_of_sign isSign c) lexed
    exact longer
  next => cases started

theorem continues_of_close (valid : scan.Valid)
    (stops : ∀ ended, scan.finish = .ok ended → ∀ token ∈ ended, token.continues c = false)
    (closed : scan.close position c = .ok (completed, next)) :
    Continues scan next c completed := by
  obtain ⟨ended, begun, finished, started, rfl⟩ := close_eq_ok.mp closed
  obtain ⟨validNext, onward⟩ := continues_of_start started
  refine ⟨validNext, fun rest tokens lexed => ?_⟩
  rw [List.append_assoc]
  refine lexes_of_finish valid finished ?_ (onward rest tokens lexed)
  rintro d ⟨⟩
  exact stops ended finished

theorem continues_of_step (valid : scan.Valid)
    (stepped : scan.step position c = .ok (completed, next)) :
    Continues scan next c completed := by
  cases scan with
  | between => exact continues_of_start stepped
  | int digits =>
      rw [step] at stepped
      split at stepped
      next digit =>
        cases stepped
        refine ⟨⟨List.cons_ne_nil _ _, List.forall_mem_cons.mpr ⟨digit, valid.2⟩⟩,
          fun rest tokens lexed => ?_⟩
        simpa [read] using lexed
      next other =>
        refine continues_of_close valid ?_ stepped
        intro ended finished token member
        obtain ⟨value, -, -, rfl⟩ := finish_int_eq_ok.mp finished
        cases List.mem_singleton.mp member
        exact Bool.not_eq_true _ ▸ other
  | name chars =>
      rw [step] at stepped
      split at stepped
      next goesOn =>
        cases stepped
        obtain ⟨first, others, chars_eq, starts, valid⟩ := valid
        refine ⟨⟨first, others ++ [c], by simp [chars_eq], starts, fun d member => ?_⟩,
          fun rest tokens lexed => ?_⟩
        · rcases List.mem_append.mp member with earlier | last
          · exact valid d earlier
          · cases List.mem_singleton.mp last
            exact goesOn
        · simpa [read] using lexed
      next other =>
        refine continues_of_close valid ?_ stepped
        intro ended finished token member
        cases finished
        cases List.mem_singleton.mp member
        exact Bool.not_eq_true _ ▸ other
  | text quote chars =>
      rw [step] at stepped
      split at stepped
      next closing =>
        cases stepped
        cases closing
        refine ⟨trivial, fun rest tokens lexed => ?_⟩
        have spelled : Spells (c :: (chars.reverse ++ [c]))
            (.text (String.ofList chars.reverse)) :=
          .text valid.1 (by simpa using valid.2)
        simpa [read] using Lexes.token spelled (fun _ _ => rfl) lexed
      next inside =>
        cases stepped
        refine ⟨⟨valid.1, ?_⟩, fun rest tokens lexed => by simpa [read] using lexed⟩
        rintro (_ | ⟨_, member⟩)
        · exact inside rfl
        · exact valid.2 member
  | point start =>
      rw [step] at stepped
      split at stepped
      next second =>
        cases stepped
        cases second
        refine ⟨trivial, fun rest tokens lexed => ?_⟩
        have longer : Lexes (['.', '.'] ++ rest) (.dots :: tokens) :=
          .token .dots (fun _ _ => rfl) lexed
        exact longer
      next => cases stepped

theorem lexes_of_tokensFrom (valid : scan.Valid)
    (found : tokensFrom scan position chars = .ok tokens) : Lexes (scan.read ++ chars) tokens := by
  induction chars generalizing scan position tokens with
  | nil =>
      have ended := lexes_of_finish valid found (fun c head => by cases head) Lexes.nil
      rwa [List.append_nil tokens] at ended
  | cons c chars ih =>
      obtain ⟨completed, next, others, stepped, continued, rfl⟩ := tokensFrom_cons_eq_ok.mp found
      obtain ⟨validNext, onward⟩ := continues_of_step valid stepped
      exact onward chars others (ih validNext continued)

end Scan

variable {chars : List Char} {tokens others : List Token}

/-- Tokenizing finds exactly the tokens that the characters consist of. -/
theorem tokenize_eq_ok_iff : tokenize chars = .ok tokens ↔ Lexes chars tokens := by
  have valid : Scan.between.Valid := trivial
  exact ⟨Scan.lexes_of_tokensFrom valid, fun lexed => lexed.tokensFrom 0⟩

theorem Lexes.unique (lexed : Lexes chars tokens) (other : Lexes chars others) :
    tokens = others := by
  have same := tokenize_eq_ok_iff.mpr lexed
  rw [tokenize_eq_ok_iff.mpr other] at same
  exact (Except.ok.inj same).symm

/-! ## Blanks between tokens -/

namespace Token

/-- Tokens that a blank must separate from each other. -/
def isWord : Token → Bool
  | .int _ | .name _ => true
  | _ => false

/-- Tokens that need no blank between them. -/
def Apart (first second : Token) : Prop := first.isWord = false ∨ second.isWord = false

/-- No token goes on with a character that no name goes on with. -/
theorem continues_of_not_continuesName {c : Char} (outside : continuesName c = false)
    (token : Token) : token.continues c = false := by
  cases token with
  | int =>
      cases digit : c.isDigit with
      | false => exact digit
      | true => cases (continuesName_of_isDigit digit).symm.trans outside
  | name => exact outside
  | _ => rfl

end Token

theorem Spells.ne_nil {front : List Char} {token : Token} (spelled : Spells front token) :
    front ≠ [] := by
  cases spelled with
  | int nonempty => exact nonempty
  | _ => exact List.cons_ne_nil _ _

theorem Spells.continuesName_head {front : List Char} {token : Token} {c : Char}
    (spelled : Spells front token) (other : token.isWord = false) (head : c ∈ front.head?) :
    continuesName c = false := by
  cases spelled with
  | int | name => cases other
  | text quote =>
      cases head
      rcases quote with rfl | rfl <;> decide
  | dots =>
      cases head
      decide
  | sign isSign =>
      cases head
      cases token <;> cases isSign <;> decide

theorem Spells.continues_of_apart {first second : Token} {front : List Char} {c : Char}
    (spelled : Spells front second) (apart : first.Apart second) (head : c ∈ front.head?) :
    first.continues c = false := by
  rcases apart with noWord | noWord
  · cases first with
    | int | name => cases noWord
    | _ => rfl
  · exact Token.continues_of_not_continuesName (spelled.continuesName_head noWord head) first

theorem Lexes.spaced (lexed : Lexes chars tokens) : Spaced chars tokens := by
  induction lexed with
  | nil => exact .nil
  | blank isBlank _ ih => exact .blank isBlank ih
  | token spelled _ _ ih => exact .token spelled ih

/-- The characters are the tokens one after another with any blanks around them, of which there is
one at least between two words. -/
inductive Written : List Char → List Token → Prop where
  | nil : Written [] []
  | blank {c rest tokens} : Text.isBlank c → Written rest tokens → Written (c :: rest) tokens
  | token {front token rest tokens} : Spells front token →
      (∀ next ∈ tokens.head?, token.Apart next ∨ ∃ c ∈ rest.head?, Text.isBlank c) →
      Written rest tokens → Written (front ++ rest) (token :: tokens)

namespace Written

/-- A text begins with a blank or with its first token. -/
theorem head {c : Char} (written : Written chars tokens) (first : c ∈ chars.head?) :
    Text.isBlank c ∨ ∃ token ∈ tokens.head?, ∃ front, Spells front token ∧ c ∈ front.head? := by
  cases written with
  | nil => cases first
  | blank blank =>
      cases first
      exact .inl blank
  | @token front token rest tokens spelled =>
      rw [List.head?_append_of_ne_nil _ spelled.ne_nil] at first
      exact .inr ⟨token, rfl, front, spelled, first⟩

/-- No token that is written could go on longer. -/
theorem lexes (written : Written chars tokens) : Lexes chars tokens := by
  induction written with
  | nil => exact .nil
  | blank blank _ ih => exact .blank blank ih
  | @token front token rest tokens spelled separated writtenRest ih =>
      have ends_of_blank {c : Char} (blank : Text.isBlank c) : token.continues c = false :=
        Token.continues_of_not_continuesName (continuesName_of_isBlank blank) token
      refine .token spelled (fun c head => ?_) ih
      rcases writtenRest.head head with blank | ⟨next, isNext, front, spelledNext, begins⟩
      · exact ends_of_blank blank
      · rcases separated next isNext with apart | ⟨d, first, blank⟩
        · exact spelledNext.continues_of_apart apart begins
        · cases Option.mem_unique first head
          exact ends_of_blank blank

end Written

theorem Spaced.written (spaced : Spaced chars tokens) (apart : tokens.IsChain Token.Apart) :
    Written chars tokens := by
  induction spaced with
  | nil => exact .nil
  | blank isBlank _ ih => exact .blank isBlank (ih apart)
  | token spelled _ ih =>
      obtain ⟨first, others⟩ := List.isChain_cons.mp apart
      exact .token spelled (fun next head => .inl (first next head)) (ih others)

/-- Tokens that are apart may be written with any blanks between them, or none. -/
theorem Spaced.lexes (spaced : Spaced chars tokens) (apart : tokens.IsChain Token.Apart) :
    Lexes chars tokens :=
  (spaced.written apart).lexes

end Template

end Sharding
