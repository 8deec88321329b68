import CellExpr.Proofs.Grammar.Derivation
import Mathlib.Data.List.Chain

/-!
# Neighbours

Which tokens stand side by side in an expression. After a token that an operand can end with there is a mark, and after any
other token there is none that could be taken for the rest of it or for something else in that place. So the tokens of an
expression keep apart even where nothing is written between them.
-/

namespace CellExpr

namespace TokenKind

/-- Whether a token is an operator or a mark of punctuation. -/
def isMark : TokenKind → Bool
  | mark _ => true
  | _ => false

/-- Whether a token may come right after another one. -/
structure Meets (k next : TokenKind) : Prop where
  /-- After a word or an operand there is a mark. -/
  mark : k.isMark = false ∨ k.endsOperand = true → next.isMark = true
  /-- Where an operand has to begin, no slash divides, no field is looked up and nothing is compared. -/
  operand : k.endsOperand = false → next ≠ .mark .slash ∧ next ≠ .mark .dot ∧ next ≠ .mark .equal
  /-- After the point of a field there is its name. -/
  field : k = .mark .dot → ∃ name, next = .name name

variable {k next : TokenKind} {m : Mark}

theorem meets_of_endsOperand (h : k.endsOperand = true) : Meets k (.mark m) where
  mark _ := rfl
  operand h' := by rw [h] at h'; cases h'
  field hk := by subst hk; cases h

theorem meets_of_beginsExpr (hm : (TokenKind.mark m).endsOperand = false) (hdot : m ≠ .dot)
    (h : next.beginsExpr = true) : Meets (.mark m) next where
  mark h' := by
    rcases h' with h' | h'
    · cases h'
    · rw [hm] at h'; cases h'
  operand _ := by refine ⟨?_, ?_, ?_⟩ <;> (rintro rfl; cases h)
  field hk := absurd (mark.inj hk) hdot

theorem meets_of_field (name : String) : Meets (.mark .dot) (.name name) where
  mark h := by rcases h with h | h <;> cases h
  operand _ := ⟨nofun, nofun, nofun⟩
  field _ := ⟨name, rfl⟩

/-- A list or a word in front of a list may be followed by one of the marks of brackets. -/
theorem meets_of_bracket (hk : k ≠ .mark .dot) (hm : m ≠ .slash ∧ m ≠ .dot ∧ m ≠ .equal) : Meets k (.mark m) where
  mark _ := rfl
  operand _ := by simpa using hm
  field h := absurd h hk

end TokenKind

open TokenKind (Meets)

/-! ## Phrases -/

/-- Tokens that keep apart, of which the first can begin an expression and the last can end an operand. -/
structure Solid (ts : List TokenKind) : Prop where
  head : ∃ k rest, ts = k :: rest ∧ k.beginsExpr = true
  last : ∃ rest k, ts = rest ++ [k] ∧ k.endsOperand = true
  chain : ts.IsChain Meets

namespace Solid

variable {ts us : List TokenKind} {k : TokenKind} {m : Mark}

theorem single (hbegins : k.beginsExpr = true) (hends : k.endsOperand = true) : Solid [k] :=
  ⟨⟨k, [], rfl, hbegins⟩, ⟨[], k, rfl, hends⟩, .singleton k⟩

/-- After an operand there may be a mark and what may follow it. -/
theorem chain_append (h : Solid ts) (hus : (.mark m :: us).IsChain Meets) : (ts ++ .mark m :: us).IsChain Meets := by
  refine h.chain.append hus fun x hx y hy => ?_
  obtain ⟨rest, k, rfl, hk⟩ := h.last
  rw [List.getLast?_concat] at hx
  cases hx
  cases hy
  exact TokenKind.meets_of_endsOperand hk

theorem append (h : Solid ts) (hus : (.mark m :: us).IsChain Meets)
    (hlast : ∃ rest k, TokenKind.mark m :: us = rest ++ [k] ∧ k.endsOperand = true) : Solid (ts ++ .mark m :: us) := by
  obtain ⟨k, rest, hk, hbegins⟩ := h.head
  obtain ⟨rest', k', hk', hends⟩ := hlast
  refine ⟨⟨k, rest ++ .mark m :: us, by rw [hk]; rfl, hbegins⟩, ⟨ts ++ rest', k', ?_, hends⟩, h.chain_append hus⟩
  rw [hk', List.append_assoc]

/-- An expression may stand after a mark that waits for an operand. -/
theorem chain_cons (h : Solid ts) (hm : (TokenKind.mark m).endsOperand = false) (hdot : m ≠ .dot) :
    (.mark m :: ts).IsChain Meets := by
  obtain ⟨k, rest, rfl, hk⟩ := h.head
  exact List.isChain_cons_cons.2 ⟨TokenKind.meets_of_beginsExpr hm hdot hk, h.chain⟩

theorem last_cons (h : Solid ts) : ∃ rest k', k :: ts = rest ++ [k'] ∧ k'.endsOperand = true := by
  obtain ⟨rest, k', rfl, hk⟩ := h.last
  exact ⟨k :: rest, k', rfl, hk⟩

/-- Two expressions with a mark between them. -/
theorem join (hts : Solid ts) (hus : Solid us) (hm : (TokenKind.mark m).endsOperand = false) (hdot : m ≠ .dot) :
    Solid (ts ++ .mark m :: us) :=
  hts.append (hus.chain_cons hm hdot) hus.last_cons

/-- An expression with a mark before it and one after it. -/
theorem chain_between (h : Solid ts) {c : Mark} (hm : (TokenKind.mark m).endsOperand = false) (hdot : m ≠ .dot) :
    (.mark m :: (ts ++ [.mark c])).IsChain Meets := by
  obtain ⟨k, rest, hk, hbegins⟩ := h.head
  have hclosed : (ts ++ [TokenKind.mark c]).IsChain Meets := h.chain_append (.singleton _)
  rw [hk] at hclosed ⊢
  exact List.isChain_cons_cons.2 ⟨TokenKind.meets_of_beginsExpr hm hdot hbegins, hclosed⟩

/-- Expressions with commas between them. -/
theorem separated {args : Arguments} (hne : args ≠ []) (hargs : ∀ a ∈ args, Solid a.1) :
    Solid (separated args.phrases) := by
  induction args with
  | nil => exact absurd rfl hne
  | cons a args ih =>
    have ha := hargs a List.mem_cons_self
    cases args with
    | nil => exact ha
    | cons b args => exact ha.join (ih (List.cons_ne_nil _ _) fun c hc => hargs c (List.mem_cons_of_mem _ hc)) rfl (by decide)

/-- A list in brackets. -/
theorem chain_enclosed {args : Arguments} (hargs : ∀ a ∈ args, Solid a.1) {opening closing : Mark}
    (hm : (TokenKind.mark opening).endsOperand = false) (hdot : opening ≠ .dot)
    (hc : closing ≠ .slash ∧ closing ≠ .dot ∧ closing ≠ .equal) :
    (enclosed opening closing args.phrases).IsChain Meets := by
  cases args with
  | nil =>
    exact List.isChain_cons_cons.2 ⟨TokenKind.meets_of_bracket (fun h => hdot (TokenKind.mark.inj h)) hc, .singleton _⟩
  | cons a args => exact (separated (List.cons_ne_nil _ _) hargs).chain_between hm hdot

end Solid

theorem last_enclosed (before : List TokenKind) {opening closing : Mark} {phrases : List (List TokenKind)}
    (hc : (TokenKind.mark closing).endsOperand = true) :
    ∃ rest k, before ++ enclosed opening closing phrases = rest ++ [k] ∧ k.endsOperand = true :=
  ⟨before ++ .mark opening :: separated phrases, .mark closing, by simp [enclosed], hc⟩

/-- The tokens of a phrase keep apart. -/
theorem Derives.solid {p : Phrase} {n : Nat} {ts : List TokenKind} {e : Expr} (h : Derives p n ts e) : Solid ts := by
  induction h with
  | plain _ ih | tighter _ _ ih | operand _ ih | unsigned _ ih | bare _ ih => exact ih
  | conditional _ _ _ ihc ihy ihn => exact (ihc.join ihy rfl (by decide)).join ihn rfl (by decide)
  | chain op _ _ ihl ihr => exact ihl.join ihr (by cases op <;> rfl) (by cases op <;> decide)
  | signed op _ ih =>
    exact ⟨⟨_, _, rfl, by cases op <;> rfl⟩, ih.last_cons, ih.chain_cons (by cases op <;> rfl) (by cases op <;> decide)⟩
  | field name _ ih =>
    refine ih.append ?_ ⟨[.mark .dot], .name name, rfl, rfl⟩
    exact List.isChain_cons_cons.2 ⟨TokenKind.meets_of_field name, .singleton _⟩
  | method name args _ _ _ ih ihargs =>
    refine ih.append ?_ (last_enclosed [.mark .dot, .name name] rfl)
    refine List.isChain_cons_cons.2 ⟨TokenKind.meets_of_field name, List.isChain_cons_cons.2 ⟨?_, ?_⟩⟩
    · exact TokenKind.meets_of_endsOperand rfl
    · exact Solid.chain_enclosed ihargs rfl (by decide) (by decide)
  | index _ _ ih ihp =>
    rw [List.append_assoc, List.cons_append]
    exact ih.append (ihp.chain_between rfl (by decide)) ⟨.mark .openBracket :: _, .mark .closeBracket, rfl, rfl⟩
  | call name args _ _ ih =>
    refine ⟨⟨_, _, rfl, rfl⟩, last_enclosed [.name name] rfl, List.isChain_cons_cons.2 ⟨?_, ?_⟩⟩
    · exact TokenKind.meets_of_endsOperand rfl
    · exact Solid.chain_enclosed ih rfl (by decide) (by decide)
  | choice args _ _ ih =>
    refine ⟨⟨_, _, rfl, rfl⟩, last_enclosed [.keyword .if] rfl, List.isChain_cons_cons.2 ⟨?_, ?_⟩⟩
    · exact TokenKind.meets_of_bracket nofun ⟨nofun, nofun, nofun⟩
    · exact Solid.chain_enclosed ih rfl (by decide) (by decide)
  | group _ ih => exact ⟨⟨_, _, rfl, rfl⟩, ⟨.mark .openParen :: _, .mark .closeParen, rfl, rfl⟩, ih.chain_between (m := .openParen) rfl (by decide)⟩
  | array items _ ih =>
    exact ⟨⟨_, _, rfl, rfl⟩, last_enclosed [] rfl, Solid.chain_enclosed ih rfl (by decide) (by decide)⟩
  | boolean b => exact .single rfl (by cases b <;> rfl)
  | _ => exact .single rfl rfl

/-! ## The second token -/

/-- The second token of a list is that of its beginning, or what comes after a beginning of one token. -/
theorem second_append {ts rest : List TokenKind} {k c : TokenKind} (hne : ∃ k rest, ts = k :: rest)
    (hts : ts[1]? ≠ some c) (hk : k ≠ c) : (ts ++ k :: rest)[1]? ≠ some c := by
  obtain ⟨first, tail, rfl⟩ := hne
  cases tail with
  | nil => simpa using hk
  | cons => simpa using hts

/-- No expression has a colon as its second token. -/
theorem Derives.second_ne_colon {p : Phrase} {n : Nat} {ts : List TokenKind} {e : Expr} (h : Derives p n ts e) :
    ts[1]? ≠ some (.mark .colon) := by
  have hbegins : ∀ {k : TokenKind}, k.beginsExpr = true → k ≠ .mark .colon := by
    rintro _ hk rfl
    cases hk
  have hhead : ∀ {us : List TokenKind}, Solid us → ∃ k rest, us = k :: rest :=
    fun h => h.head.imp fun _ => .imp fun _ => And.left
  have hcons : ∀ {us rest : List TokenKind} {k : TokenKind}, Solid us → (k :: us ++ rest)[1]? ≠ some (.mark .colon) := by
    intro us rest k hus
    obtain ⟨first, _, rfl, hfirst⟩ := hus.head
    simpa using hbegins hfirst
  induction h with
  | plain _ ih | tighter _ _ ih | operand _ ih | unsigned _ ih | bare _ ih => exact ih
  | conditional hc _ _ ihc =>
    rw [List.append_assoc]
    exact second_append (hhead hc.solid) ihc nofun
  | chain op hl _ ihl => exact second_append (hhead hl.solid) ihl (by cases op <;> nofun)
  | signed op h =>
    obtain ⟨first, _, rfl, hfirst⟩ := h.solid.head
    exact fun hsecond => hbegins hfirst (Option.some.inj hsecond)
  | field _ h ih | method _ _ h _ _ ih => exact second_append (hhead h.solid) ih nofun
  | index h _ ih =>
    rw [List.append_assoc]
    exact second_append (hhead h.solid) ih nofun
  | group h => exact hcons h.solid
  | array items hitems =>
    cases items with
    | nil => nofun
    | cons a items => exact hcons (Solid.separated (List.cons_ne_nil _ _) fun b hb => (hitems b hb).solid)
  | _ => nofun

end CellExpr
