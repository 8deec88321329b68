import CellExpr.Proofs.Evaluation.Controls
import CellExpr.Proofs.Grammar.CallFaults
import CellExpr.Proofs.Grammar.ErrorPlaces
import CellExpr.Proofs.Syntax.Parts
import CellExpr.Proofs.Writing.RoundTrip
import CellExpr.Syntax.Sexp

/-!
# Shapes of nodes

Every node of a tree that is read from a text has its shape, at any depth and wherever its parts come from: a method call puts the
operand before its arguments, and one control form has arguments on both sides of its body. What does not have the shape of a control
form is refused where its name stands (`Expr.isShaped_of_parse`).
-/

namespace CellExpr

open TokenReader

namespace Expr

/-- The shape of a node: a control form has the arguments that it evaluates and its parameters, and has a body unless it is `if`; no
call has the name of a control form; and regular expressions have been compiled. -/
structure IsShaped (node : Expr) : Prop where
  args : ∀ form args body, node = .control form args body → args.length = form.needs
  body : ∀ form args body, node = .control form args body → (body.isSome ↔ form ≠ .if)
  params : ∀ form args params b, node = .control form args (some ⟨params, b⟩) → params.length = form.parameters
  call : ∀ name args, node = .call name args → ∀ form : ControlForm, form.name ≠ name
  regex : ∀ r, node = .literal (.regex r) → Pattern.compile? r.source r.ignoreCase = some r.program

variable {ok : TokenKind → Prop} {e node part : Expr} {path : List Nat}

theorem Formed.of_mem_parts (h : e.Formed ok) (hpart : part ∈ e.parts) : part.Formed ok := by
  cases h with
  | literal | var => cases hpart
  | array items hitems => exact hitems part hpart
  | call name args _ _ hargs => exact hargs part hpart
  | binding form args params _ _ _ _ hargs hbody =>
    rcases List.mem_append.1 hpart with hpart | hpart
    · exact hargs part hpart
    · exact List.mem_singleton.1 hpart ▸ hbody
  | field _ _ h | unary _ h => exact List.mem_singleton.1 hpart ▸ h
  | index h h' | binary _ h h' =>
    simp only [parts, List.mem_cons, List.not_mem_nil, or_false] at hpart
    rcases hpart with rfl | rfl
    · exact h
    · exact h'
  | choice h h' h'' | conditional h h' h'' =>
    simp only [parts, List.mem_cons, List.not_mem_nil, or_false] at hpart
    rcases hpart with rfl | rfl | rfl
    · exact h
    · exact h'
    · exact h''

theorem Formed.of_at? (h : e.Formed ok) (hnode : e.at? path = some node) : node.Formed ok := by
  induction path generalizing e with
  | nil => exact Option.some.inj hnode ▸ h
  | cons i path ih =>
    obtain ⟨part, hpart, hnode⟩ := Option.bind_eq_some_iff.1 hnode
    exact ih (h.of_mem_parts (List.mem_of_getElem? hpart)) hnode

theorem Formed.isShaped (h : node.Formed ok) : node.IsShaped where
  args form args body heq := by
    subst heq
    cases h with
    | choice => rfl
    | binding form args params hform hlength =>
      have hneeds := ControlForm.needs_of_trailing hform
      omega
  body form args body heq := by
    subst heq
    cases h with
    | choice => simp
    | binding form args params hform =>
      refine ⟨fun _ heq => ?_, fun _ => rfl⟩
      subst heq
      cases hform
  params form args params b heq := by
    subst heq
    cases h with
    | binding _ _ _ _ _ hparams => exact hparams
  call name args heq := by
    subst heq
    cases h with
    | call _ _ _ hform => exact hform
  regex r _ := r.compiled

end Expr

/-! ## Faults of calls in a text -/

/-- Whether the name of a control form stands at a position of a text. -/
def ControlForm.StandsIn (text : List Char) (form : ControlForm) (position : Nat) : Prop :=
  form.name.toList <+: text.drop position

/-- A token that stands in a text is shown there. -/
theorem Token.StandsIn.shown {text : List Char} {t : Token} (h : t.StandsIn text) : t.Shown (ControlForm.StandsIn text) := by
  intro form hform
  have hdescription : t.description = form.name := by
    rcases hform with hname | ⟨hchoice, rfl⟩
    · exact h.name _ hname
    · exact h.choice hchoice
  have hne : form.name ≠ "end of expression" := by cases form <;> decide
  have hfound := h.found
  rw [hdescription] at hfound
  exact hfound.spec.2 hne

namespace TokenCursor

variable {afterOperand : Bool} {start position n : Nat} {c : Char} {text rest : List Char} {before : List Token} {err : SyntaxError}

/-- No token is at fault for a call. -/
theorem form?_of_tokenRun (h : tokenRun afterOperand start c rest = (.error err, n)) : err.fault.form? = none := by
  unfold tokenRun at h
  split at h
  · dsimp only at h
    split at h <;> cases h
    rfl
  · split at h
    · cases h
    · split at h
      · split at h <;> cases h <;> rfl
      · split at h <;> split at h <;> cases h <;> rfl

theorem form?_of_scans (h : Scans afterOperand position text before (.error err)) : err.fault.form? = none := by
  generalize hlast : Except.error err = last at h
  induction h with
  | finish => cases hlast
  | error _ _ _ hrun =>
    obtain rfl := Except.error.inj hlast
    exact form?_of_tokenRun hrun
  | token _ _ _ _ _ ih => exact ih hlast

end TokenCursor

namespace Expr

theorem shown_of_ofChars {text : List Char} {err : SyntaxError} (h : ofChars text = .error err) :
    err.Shown (ControlForm.StandsIn text) := by
  obtain ⟨before, last, hscans⟩ := exists_scans false 0 text
  obtain ⟨hbefore, hlast⟩ := hscans.standsIn [] rfl
  rw [ofChars, hscans.ofText_eq] at h
  refine shown_of_ofStream (fun t ht => ?_) (fun err' herr => ?_) h
  · rcases List.mem_append.1 ht with ht | ht
    · obtain ⟨u, hu, heq⟩ := List.mem_map.1 ht
      obtain rfl := Except.ok.inj heq
      exact (hbefore u hu).shown
    · obtain rfl := List.mem_singleton.1 ht
      exact Token.StandsIn.shown hlast
  · rcases List.mem_append.1 herr with herr | herr
    · obtain ⟨u, _, heq⟩ := List.mem_map.1 herr
      cases heq
    · obtain rfl := List.mem_singleton.1 herr
      exact SyntaxError.shown_of_form? (TokenCursor.form?_of_scans hscans)

/-- What is refused in a call is shown at its name, which stands there in the text. -/
theorem shown_of_parse {text : String} {err : SyntaxError} (h : parse text = .error err) :
    err.Shown (ControlForm.StandsIn text.toList) := by
  unfold parse at h
  split at h
  · rename_i rest hrest
    obtain ⟨removed, hremoved⟩ := dropLanguageMark?_eq_some hrest
    have hlength : text.toList.length - rest.length = removed.length := by
      rw [hremoved, List.length_append, Nat.add_sub_cancel]
    rw [hlength] at h
    cases hchars : ofChars rest with
    | ok => rw [hchars] at h; cases h
    | error err' =>
      rw [hchars] at h
      obtain rfl := Except.error.inj h
      intro name hname
      obtain ⟨form, hform, hfound, hstands⟩ := shown_of_ofChars hchars name hname
      refine ⟨form, hform, hfound, ?_⟩
      have hdrop : text.toList.drop (err'.position + removed.length) = rest.drop err'.position := by
        rw [hremoved, Nat.add_comm, List.drop_length_add_append]
      have hprefix : form.name.toList <+: text.toList.drop (err'.position + removed.length) := by
        rw [hdrop]
        exact hstands
      exact hprefix
  · exact shown_of_ofChars h

/-- In the tree of a text every node has its shape, at any depth: a control form has as many arguments as its evaluation reads, has a
body unless it is `if`, and has its number of parameters; no call is named like a control form; and regular expressions are compiled.
With fewer arguments an evaluation would be stuck, and it would not look at any others.

What is written with another number of arguments, or with anything but a plain variable in the place of a parameter, and nothing else,
is refused as a control form, at the position that is given for its name. That is where the name stands in the text. -/
theorem isShaped_of_parse (text : String) :
    (∀ e, parse text = .ok e → ∀ path node, e.at? path = some node → node.IsShaped) ∧
      (∀ (form : ControlForm) (args : List Expr) (body : Option (Lambda Expr)) (r : Registry) (s : Scope),
        (args.length < form.needs → ((control form args body).eval r s).stuck = true) ∧
          (form.needs ≤ args.length → (control form (args.take form.needs) body).eval r s = (control form args body).eval r s)) ∧
      (∀ (form : ControlForm) (args : List Expr) (position : Nat),
        (args.length ≠ form.arity ∨
            ∃ k arg, form.leading ≤ k ∧ k < form.leading + form.parameters ∧ args[k]? = some arg ∧ ∀ param, arg ≠ .var param) ↔
          ∃ fault, controlOf form args position = .error ⟨fault, position, some form.name⟩) ∧
      ∀ err name, parse text = .error err → err.fault.form? = some name →
        err.found = some name ∧ name.toList <+: text.toList.drop err.position := by
  refine ⟨fun e he path node hnode => ?_, fun form args body r s => ⟨fun hfew => ?_, eval_control_take⟩,
    fun form args position => ?_, fun err name herr hname => ?_⟩
  · obtain ⟨ts, hderives, _⟩ := derives_of_parse he
    have hformed : e.Formed fun _ => True := hderives.formed fun _ _ => trivial
    exact (hformed.of_at? hnode).isShaped
  · rw [eval_control_few hfew]
    rfl
  · rw [← exists_controlOf_error_iff]
    constructor
    · rintro ⟨⟨fault, _, _⟩, herr⟩
      obtain ⟨rfl, rfl, _⟩ := controlOf_error herr
      exact ⟨fault, herr⟩
    · rintro ⟨fault, hfault⟩
      exact ⟨_, hfault⟩
  · obtain ⟨form, rfl, hfound, hstands⟩ := shown_of_parse herr name hname
    exact ⟨hfound, hstands⟩

/-- A fallback that is a method call, beside the body of a method call: the loop has the array alone as its argument. In the place of a
parameter a string is refused, where `with` stands after its first argument. -/
theorem isShaped_of_parse_methodCalls :
    (∃ e node, parse "trim(x).forNonBlank(v,v,xs.filter(y,y))" = .ok e ∧ e.at? [1] = some node ∧
        e.sexp = "(control forNonBlank (call trim (var x)) (control filter (var xs) (lambda (y) (var y))) (lambda (v) (var v)))" ∧
        node.sexp = "(control filter (var xs) (lambda (y) (var y)))" ∧ node.IsShaped) ∧
      ∃ err, parse "x.with('v',x)" = .error err ∧ err.found = some "with" ∧ err.position = 2 ∧
        "with".toList <+: "x.with('v',x)".toList.drop err.position := by
  have hread : ((parse "trim(x).forNonBlank(v,v,xs.filter(y,y))").map fun e => (e.sexp, (e.at? [1]).map sexp)) =
      .ok ("(control forNonBlank (call trim (var x)) (control filter (var xs) (lambda (y) (var y))) (lambda (v) (var v)))",
        some "(control filter (var xs) (lambda (y) (var y)))") := by decide +kernel
  have hrefused : (parse "x.with('v',x)").map sexp = .error ⟨.missingParameter "with" 2, 2, some "with"⟩ := by decide +kernel
  refine ⟨?_, ?_⟩
  · cases he : parse "trim(x).forNonBlank(v,v,xs.filter(y,y))" with
    | error err =>
      rw [he] at hread
      cases hread
    | ok e =>
      rw [he] at hread
      obtain ⟨hsexp, hpart⟩ := Prod.mk.inj (Except.ok.inj hread)
      obtain ⟨node, hnode, hnodeSexp⟩ := Option.map_eq_some_iff.1 hpart
      exact ⟨e, node, rfl, hnode, hsexp, hnodeSexp, (isShaped_of_parse _).1 e he [1] node hnode⟩
  · cases herr : parse "x.with('v',x)" with
    | ok e =>
      rw [herr] at hrefused
      cases hrefused
    | error err =>
      rw [herr] at hrefused
      obtain rfl := Except.error.inj hrefused
      obtain ⟨hfound, hstands⟩ := (isShaped_of_parse _).2.2.2 _ "with" herr rfl
      exact ⟨_, rfl, hfound, rfl, hstands⟩

end Expr

end CellExpr
