import CellExpr.Proofs.Writing.Printing
import CellExpr.Proofs.Writing.Tokens

/-!
# Printing and reading

What is printed is read back as it was (`parse_print`), and every tree that is read can be printed, if its numbers can
(`formed_of_parse`). That a number can be written means that its text reads as the number.
-/

namespace CellExpr

open CellExpr.Text CellExpr.Number TokenReader

namespace Expr

variable {e : Expr} {gap : Nat → List Char}

theorem Formed.mono {ok ok' : TokenKind → Prop} (h : e.Formed ok) (himp : ∀ k, ok k → ok' k) : e.Formed ok' := by
  induction h with
  | literal l hl => exact .literal l (himp _ hl)
  | var name hname => exact .var name (himp _ hname)
  | field name hname _ ih => exact .field name (himp _ hname) ih
  | index _ _ ih ihp => exact .index ih ihp
  | array items _ ih => exact .array items ih
  | call name args hname hform _ ih => exact .call name args (himp _ hname) hform ih
  | choice _ _ _ ihc ihy ihn => exact .choice ihc ihy ihn
  | binding form args params hform hlength hparams hnames _ _ ih ihbody =>
    exact .binding form args params hform hlength hparams (fun name hn => himp _ (hnames name hn)) ih ihbody
  | unary op _ ih => exact .unary op ih
  | binary op _ _ ihl ihr => exact .binary op ihl ihr
  | conditional _ _ _ ihc ihy ihn => exact .conditional ihc ihy ihn

/-- Every expression that is read is well formed, and its names and regular expressions can be written. If its numbers can be
written too, it can be printed. -/
theorem formed_of_parse {text : String} (h : parse text = .ok e) (hplain : e.Formed TokenKind.IsPlain) :
    e.Formed TokenKind.HasSpelling := by
  obtain ⟨ts, hderives, hts, _⟩ := derives_of_parse h
  refine ((hderives.formed hts).and hplain).mono fun k hk => ?_
  cases k with
  | number x => exact hk.2
  | finish => exact hk.2.elim
  | _ => exact hk.1

/-- Every well formed expression is read back from its printed text, whatever blank characters stand between its words, if the
text does not nest too deeply. -/
theorem parse_print (h : e.Formed TokenKind.HasSpelling) (hdepth : e.depth < maxNesting) (hgap : IsGap gap) :
    parse (e.print gap) = .ok e :=
  parse_written ((written_of_formed h).expr maxNesting hdepth) (ok_of_mem_words (fun _ => trivial) hasSpelling_word h) hgap

/-- An expression with a fraction, an operand in parentheses, quotes in a string, and a control form whose body is not its
last argument: `(1.5-größe)*forNonBlank(trim(value),v,!v.x[a?b:c],"\"\n")`. -/
def printedSample : Expr :=
  .binary .mul (.binary .sub (.literal (.number 1.5)) (.var "größe"))
    (.control .forNonBlank [.call "trim" [.var "value"], .literal (.string "\"\n")]
      (some ⟨["v"], .unary .not (.index (.field (.var "v") "x") (.conditional (.var "a") (.var "b") (.var "c")))⟩))

/-- The sample is read back from its text, with a space between words and without one. -/
theorem parse_print_sample :
    printedSample.Formed TokenKind.HasSpelling ∧ printedSample.depth < maxNesting ∧
      parse (printedSample.print fun _ => [' ']) = .ok printedSample ∧
      parse (printedSample.print fun _ => []) = .ok printedSample := by
  have hname : ∀ s ∈ ["größe", "trim", "value", "v", "x", "a", "b", "c"], IsName s := by
    intro s hs
    simp only [List.mem_cons, List.not_mem_nil, or_false] at hs
    rcases hs with rfl | rfl | rfl | rfl | rfl | rfl | rfl | rfl <;> exact ⟨⟨_, _, rfl, by decide +kernel⟩, rfl⟩
  have hnumber : IsPlainNumber 1.5 ∧ ReadsBack 1.5 :=
    ⟨⟨3 * Nat.pow 2 1073, by decide +kernel⟩, by unfold ReadsBack; decide +kernel⟩
  have hbody : (Expr.unary .not (.index (.field (.var "v") "x") (.conditional (.var "a") (.var "b") (.var "c")))).Formed
      TokenKind.HasSpelling :=
    .unary .not (.index (.field "x" (hname _ (by simp)) (.var "v" (hname _ (by simp))))
      (.conditional (.var "a" (hname _ (by simp))) (.var "b" (hname _ (by simp))) (.var "c" (hname _ (by simp)))))
  have hformed : printedSample.Formed TokenKind.HasSpelling := by
    refine .binary .mul (.binary .sub (.literal _ hnumber) (.var "größe" (hname _ (by simp)))) ?_
    refine .binding .forNonBlank _ ["v"] (by decide) rfl rfl (fun s hs => hname s (by simp_all)) (fun e he => ?_) hbody
    simp only [List.mem_cons, List.not_mem_nil, or_false] at he
    rcases he with rfl | rfl
    · refine .call "trim" [.var "value"] (hname _ (by simp)) (fun form => by cases form <;> decide) fun e he => ?_
      obtain rfl := List.mem_singleton.1 he
      exact .var "value" (hname _ (by simp))
    · exact .literal _ trivial
  have hdepth : printedSample.depth < maxNesting := by decide +kernel
  exact ⟨hformed, hdepth, parse_print hformed hdepth (fun _ c hc => by simp_all [isBlank, blankTable, Text.Intervals.has]),
    parse_print hformed hdepth fun _ => nofun⟩

end Expr

end CellExpr
