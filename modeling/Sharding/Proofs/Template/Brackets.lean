import Sharding.Proofs.Template.Layout
import Sharding.Proofs.Text.Items

/-!
# Brackets of placeholders

How templates fare where lists are cut into items. A body closes no bracket that it does not open,
except in its texts, so the brace of its placeholder shelters all its commas unless a text closes
it. Texts are counted like everything else: one that closes the brace, with a comma behind, has its
template cut inside a placeholder.
-/

set_option autoImplicit false

namespace Sharding.Template

open Text (isBracket isOpening isClosing ClosesWithin CommasSheltered)

/-! ## Texts of placeholders -/

mutual

def Expression.texts : Expression → List String
  | .int _ | .name _ => []
  | .text content => [content]
  | .neg operand => operand.texts
  | .binary _ left right => left.texts ++ right.texts
  | .list items => itemTexts items

def itemTexts : List Expression → List String
  | [] => []
  | item :: items => item.texts ++ itemTexts items

end

def Body.texts : Body → List String
  | .single expression => expression.texts
  | .span first last => first.texts ++ last.texts

/-- The characters of a token among which there may be brackets. -/
def Token.signs : Token → List Char
  | .text content => content.toList
  | token => token.sign?.toList

variable {c : Char} {chars content front : List Char} {token : Token} {tokens : List Token}
  {level : Level} {tree item : Expression} {items : List Expression} {body : Body}

theorem mem_itemTexts {text : String} (member : item ∈ items) (own : text ∈ item.texts) :
    text ∈ itemTexts items := by
  induction items with
  | nil => cases member
  | cons first items ih =>
      rw [itemTexts]
      rcases List.mem_cons.mp member with rfl | member
      · exact List.mem_append_left _ own
      · exact List.mem_append_right _ (ih member)

/-! ## Brackets of tokens -/

theorem isBracket_of_continuesName (continues : continuesName c) : isBracket c = false := by
  rw [← Bool.not_eq_true]
  intro bracket
  have signs : c ∈ ['\x7b', '[', '(', '\x7d', ']', ')'] := by
    simpa [isBracket, isOpening, isClosing, or_assoc] using bracket
  have none : ['\x7b', '[', '(', '\x7d', ']', ')'].all (!continuesName ·) := by decide +kernel
  have stops := List.all_eq_true.mp none c signs
  rw [continues] at stops
  cases stops

theorem filter_isBracket_eq_nil (continues : ∀ c ∈ chars, continuesName c) :
    chars.filter isBracket = [] := by
  refine List.filter_eq_nil_iff.mpr fun c member => ?_
  simp [isBracket_of_continuesName (continues c member)]

theorem Spells.filter_isBracket (spelled : Spells front token) :
    front.filter isBracket = token.signs.filter isBracket := by
  cases spelled with
  | int _ digits _ =>
      exact filter_isBracket_eq_nil fun c member => continuesName_of_isDigit (digits c member)
  | name starts continues =>
      exact filter_isBracket_eq_nil
        (List.forall_mem_cons.mpr ⟨continuesName_of_startsName starts, continues⟩)
  | text quote _ =>
      have plain : ∀ q, isQuote q → [q].filter isBracket = [] := by
        rintro q (rfl | rfl) <;> rfl
      rw [← List.singleton_append, List.filter_append, List.filter_append, plain _ quote,
        List.nil_append, List.append_nil, Token.signs, String.toList_ofList]
  | dots => rfl
  | sign sign => cases token <;> cases sign <;> rfl

theorem Spaced.filter_isBracket (spaced : Spaced chars tokens) :
    chars.filter isBracket = (tokens.flatMap Token.signs).filter isBracket := by
  induction spaced with
  | nil => rfl
  | blank blank _ ih => rw [List.filter_cons_of_neg (by simp [Text.isBracket_of_isBlank blank]), ih]
  | token spelled _ ih =>
      rw [List.filter_append, spelled.filter_isBracket, ih, List.flatMap_cons, List.filter_append]

/-! ## Brackets of bodies -/

theorem closesWithin_append {front rest : List Char} (first : ClosesWithin 0 front)
    (second : ClosesWithin 0 rest) : ClosesWithin 0 (front ++ rest) :=
  first.append second (by simpa using first front List.prefix_rfl)

theorem closesWithin_operator {before after : List Token} (operator : Operator)
    (first : ClosesWithin 0 (before.flatMap Token.signs))
    (second : ClosesWithin 0 (after.flatMap Token.signs)) :
    ClosesWithin 0 ((before ++ operator.token :: after).flatMap Token.signs) := by
  have sign : ClosesWithin 0 operator.token.signs := by cases operator <;> decide
  rw [List.flatMap_append, List.flatMap_cons]
  exact closesWithin_append first (closesWithin_append sign second)

theorem closesWithin_intercalate {parts : List (List Token)}
    (each : ∀ part ∈ parts, ClosesWithin 0 (part.flatMap Token.signs)) :
    ClosesWithin 0 (([Token.comma].intercalate parts).flatMap Token.signs) := by
  induction parts with
  | nil => exact Text.closesWithin_nil
  | cons part parts ih =>
      obtain ⟨first, others⟩ := List.forall_mem_cons.mp each
      cases parts with
      | nil => rwa [List.intercalate_singleton]
      | cons next parts =>
          have comma : ClosesWithin 0 Token.comma.signs := by decide
          rw [List.intercalate_cons_cons, List.append_assoc, List.flatMap_append,
            List.flatMap_append, List.flatMap_singleton]
          exact closesWithin_append first (closesWithin_append comma (ih others))

/-- What the grammar derives closes no brackets of others if the texts do not. -/
theorem Derives.closesWithin (derived : Derives level tokens tree)
    (texts : ∀ content ∈ tree.texts, ClosesWithin 0 content.toList) :
    ClosesWithin 0 (tokens.flatMap Token.signs) := by
  induction derived with
  | int | name => exact Text.closesWithin_nil
  | text => simpa [Token.signs] using texts _ (List.mem_singleton_self _)
  | group _ ih =>
      simpa [Token.signs, Token.sign?] using Text.ClosesWithin.enclosed rfl rfl (ih texts)
  | list _ ih =>
      have inside := closesWithin_intercalate <| List.forall_mem_map.mpr fun item member =>
        ih item member fun content own =>
          texts content (mem_itemTexts (List.mem_map_of_mem member) own)
      simpa [Token.signs, Token.sign?] using Text.ClosesWithin.enclosed rfl rfl inside
  | operand _ ih | factor _ ih | term _ ih => exact ih texts
  | negated _ ih =>
      rw [List.flatMap_cons]
      exact closesWithin_append (by decide) (ih texts)
  | product _ _ _ leftIH rightIH | sum _ _ _ leftIH rightIH =>
      rw [Expression.texts, List.forall_mem_append] at texts
      exact closesWithin_operator _ (leftIH texts.1) (rightIH texts.2)

theorem DerivesBody.closesWithin (derived : DerivesBody tokens body)
    (texts : ∀ content ∈ body.texts, ClosesWithin 0 content.toList) :
    ClosesWithin 0 (tokens.flatMap Token.signs) := by
  cases derived with
  | single derived => exact derived.closesWithin texts
  | span first last =>
      rw [Body.texts, List.forall_mem_append] at texts
      rw [List.flatMap_append, List.flatMap_cons]
      exact closesWithin_append (first.closesWithin texts.1) (last.closesWithin texts.2)

theorem Body.closesWithin_of_parse (parsed : parse content = .ok body)
    (texts : ∀ text ∈ body.texts, ClosesWithin 0 text.toList) : ClosesWithin 0 content := by
  obtain ⟨tokens, lexed, derived⟩ := parse_eq_ok_iff.mp parsed
  rw [← Text.closesWithin_filter_iff, lexed.spaced.filter_isBracket, Text.closesWithin_filter_iff]
  exact derived.closesWithin texts

/-! ## Commas of templates -/

theorem Opener.exists_brace (opener : Opener) :
    ∃ signs, opener.chars = signs ++ ['\x7b'] ∧ ',' ∉ signs := by
  cases opener
  · exact ⟨['$'], rfl, by decide⟩
  · exact ⟨['$', '-', '>'], rfl, by decide⟩

theorem commasSheltered_brace (within : ClosesWithin 0 content) :
    CommasSheltered ('\x7b' :: content) := by
  intro front rest same
  cases front with
  | nil => cases same
  | cons brace front =>
      cases same
      have bound := within front (List.prefix_append front _)
      have opened : Text.openings ['\x7b'] = 1 ∧ Text.closings ['\x7b'] = 0 := by decide
      refine ⟨_, List.suffix_rfl, ?_⟩
      rw [Text.openings_cons, Text.closings_cons]
      omega

theorem Passage.commasSheltered (passage : Passage) (literal : ',' ∉ passage.literal)
    (texts : ∀ text ∈ passage.body.texts, ClosesWithin 0 text.toList) :
    CommasSheltered passage.written := by
  obtain ⟨signs, opener, plain⟩ := passage.opener.exists_brace
  have placeholder := commasSheltered_brace (Body.closesWithin_of_parse passage.parsed texts)
  have before : CommasSheltered (passage.literal ++ signs) :=
    (Text.CommasSheltered.of_notMem literal).append (.of_notMem plain)
  have after : CommasSheltered ['\x7d'] := .of_notMem (by decide)
  simpa [written, opener] using (before.append placeholder).append after

theorem commasSheltered_laidOut {passages : List Passage} {last : List Char}
    (each : ∀ passage ∈ passages, CommasSheltered passage.written) (plain : ',' ∉ last) :
    CommasSheltered (laidOut passages last) := by
  induction passages with
  | nil => exact .of_notMem plain
  | cons passage passages ih =>
      obtain ⟨first, others⟩ := List.forall_mem_cons.mp each
      rw [laidOut, List.flatMap_cons, List.append_assoc]
      exact first.append (ih others)

theorem notMem_of_literals {parts : List Part}
    (each : ∀ content, .literal content ∈ parts → ',' ∉ content.toList)
    (among : Part.literals chars ⊆ parts) : ',' ∉ chars := by
  by_cases empty : chars = []
  · simp [empty]
  · have member : .literal (String.ofList chars) ∈ parts :=
      among (by rw [Part.literals, if_neg empty]; exact List.mem_singleton_self _)
    simpa using each _ member

/-- A template that is read is one item where lists are cut exactly if all its commas stand behind
open brackets. If its literals have no commas, all do unless a text in a placeholder closes a
bracket that is not opened in it. -/
theorem placeholders_are_kept_whole {source : String} {template : Template}
    (parsed : parse source = .ok template) (filled : Text.trim source ≠ "")
    (literals : ∀ content, .literal content ∈ template.parts → ',' ∉ content.toList) :
    (Text.items source = [Text.trim source] ↔ CommasSheltered source.toList) ∧
    ((∀ body, .placeholder body ∈ template.parts →
        ∀ text ∈ body.texts, ClosesWithin 0 text.toList) →
      Text.items source = [Text.trim source]) := by
  have whole : Text.items source = [Text.trim source] ↔ CommasSheltered source.toList := by
    have single := @Text.items_eq_singleton_iff source.toList
    rw [String.ofList_toList] at single
    exact single.trans (and_iff_right fun empty => filled (congrArg String.ofList empty))
  refine ⟨whole, fun texts => whole.mpr ?_⟩
  obtain ⟨passages, last, -, layout, rfl⟩ := parse_eq_ok_iff.mp parsed
  rw [layout]
  refine commasSheltered_laidOut (fun passage member => ?_) ?_
  · have among : passage.parts ⊆ passages.flatMap Passage.parts ++ Part.literals last :=
      fun _ own => List.mem_append_left _ (List.mem_flatMap_of_mem member own)
    refine passage.commasSheltered ?_ (texts passage.body ?_)
    · exact notMem_of_literals literals fun _ own => among (List.mem_append_left _ own)
    · exact among (List.mem_append_right _ (List.mem_singleton_self _))
  · exact notMem_of_literals literals (List.subset_append_right _ _)

private def listPassage : Passage where
  literal := " t_".toList
  opener := .arrow
  content := "[1, '(,']".toList
  body := .single (.list [.int 1, .text "(,"])
  plain := by decide +kernel
  unbroken := by decide +kernel
  parsed := by
    have items : ∀ item ∈ [([Token.int 1], Expression.int 1), ([.text "(,"], .text "(,")],
        Derives .sum item.1 item.2 :=
      List.forall_mem_cons.mpr ⟨.term (.factor (.operand .int)),
        List.forall_mem_singleton.mpr (.term (.factor (.operand .text)))⟩
    have lexed : tokenize "[1, '(,']".toList =
        .ok [.openBracket, .int 1, .comma, .text "(,", .closeBracket] := by decide +kernel
    exact Body.parse_eq_ok_iff.mpr ⟨_, tokenize_eq_ok_iff.mp lexed,
      .single (.term (.factor (.operand (.list items))))⟩

theorem lists_are_kept_whole :
    Text.items " t_$->\x7b[1, '(,']\x7d" = ["t_$->\x7b[1, '(,']\x7d"] := by
  have layout : " t_$->\x7b[1, '(,']\x7d".toList = laidOut [listPassage] [] := by decide +kernel
  have parsed : parse " t_$->\x7b[1, '(,']\x7d" = .ok ⟨_, [.literal " t_",
      .placeholder (.single (.list [.int 1, .text "(,"]))]⟩ := parse_of_laidOut .nil layout
  have trimmed : Text.trim " t_$->\x7b[1, '(,']\x7d" = "t_$->\x7b[1, '(,']\x7d" := by
    decide +kernel
  have closes : ClosesWithin 0 ['(', ','] := by decide +kernel
  rw [← trimmed]
  exact (placeholders_are_kept_whole parsed (by decide +kernel) (by simp)).2
    (by simp [Body.texts, Expression.texts, itemTexts, closes])

private def closingPassage : Passage where
  literal := []
  opener := .short
  content := "'),'".toList
  body := .single (.text "),")
  plain := by decide +kernel
  unbroken := by decide +kernel
  parsed := Body.parse_eq_ok_iff.mpr ⟨[.text "),"], tokenize_eq_ok_iff.mp (by decide +kernel),
    .single (.term (.factor (.operand .text)))⟩

/-- A text that closes the brace of its placeholder. -/
theorem closing_text_is_cut :
    (∃ template, parse "$\x7b'),'\x7d" = .ok template ∧
      template.parts = [.placeholder (.single (.text "),"))]) ∧
    Text.items "$\x7b'),'\x7d" = ["$\x7b')", "'\x7d"] ∧
    Text.items "$\x7b'),'\x7d" ≠ [Text.trim "$\x7b'),'\x7d"] := by
  have layout : "$\x7b'),'\x7d".toList = laidOut [closingPassage] [] := by decide +kernel
  exact ⟨⟨_, parse_of_laidOut .nil layout, rfl⟩, by decide +kernel, by decide +kernel⟩

end Sharding.Template
