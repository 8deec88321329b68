import CellExpr.Proofs.Grammar.Calls
import CellExpr.Proofs.Grammar.Reading

/-!
# Faults of calls

A control form that is written with a wrong number of arguments, or with something else in the place of a parameter, is refused, and
shown at its name (`TokenReader.controlOf_eq_error_iff`). That holds wherever in a text the call stands, also where its first
argument is written before the name: each reader of the grammar reports such a fault at a token that is the name of the form
(`TokenReader.Reliable.whole`).
-/

namespace CellExpr

/-- The name of the control form whose arguments a fault is about. -/
def SyntaxFault.form? : SyntaxFault → Option String
  | wrongArgumentCount form .. | missingParameter form _ => some form
  | _ => none

theorem ControlForm.eq_of_name_eq {form form' : ControlForm} (h : form.name = form'.name) : form = form' := by
  have hname := ofName?_name form
  rw [h, ofName?_name form'] at hname
  exact (Option.some.inj hname).symm

namespace TokenReader

/-! ## Arguments of control forms -/

variable {form : ControlForm} {position number : Nat} {args : List Expr} {name : String} {err : SyntaxError}

/-- The fault of a parameter is shown at the name of its form. -/
theorem parameterNames_error (h : parameterNames form position number args = .error err) :
    err.position = position ∧ err.found = some form.name ∧ err.fault.form? = some form.name := by
  induction args generalizing number with
  | nil => cases h
  | cons arg rest ih =>
    by_cases hvar : ∃ param, arg = .var param
    · obtain ⟨param, rfl⟩ := hvar
      rw [parameterNames] at h
      cases hrest : parameterNames form position (number + 1) rest with
      | ok => rw [hrest] at h; cases h
      | error err' =>
        rw [hrest] at h
        obtain rfl := Except.error.inj h
        exact ih hrest
    · rw [parameterNames] at h
      · obtain rfl := Except.error.inj h
        exact ⟨rfl, rfl, rfl⟩
      · exact fun param heq => hvar ⟨param, heq⟩

/-- Parameters are at fault if one of them is no plain variable. -/
theorem exists_parameterNames_error_iff :
    (∃ err, parameterNames form position number args = .error err) ↔ ∃ arg ∈ args, ∀ param, arg ≠ .var param := by
  induction args generalizing number with
  | nil =>
    constructor
    · rintro ⟨err, herr⟩
      cases herr
    · rintro ⟨arg, harg, _⟩
      cases harg
  | cons arg rest ih =>
    by_cases hvar : ∃ param, arg = .var param
    · obtain ⟨param, rfl⟩ := hvar
      have hrest : (∃ err, parameterNames form position number (.var param :: rest) = .error err) ↔
          ∃ err, parameterNames form position (number + 1) rest = .error err := by
        rw [parameterNames]
        cases parameterNames form position (number + 1) rest <;> simp [Except.map]
      rw [hrest, ih]
      constructor
      · rintro ⟨arg, harg, hne⟩
        exact ⟨arg, List.mem_cons_of_mem _ harg, hne⟩
      · rintro ⟨arg, harg, hne⟩
        rcases List.mem_cons.1 harg with rfl | harg
        · exact absurd rfl (hne param)
        · exact ⟨arg, harg, hne⟩
    · have hne : ∀ param, arg = .var param → False := fun param heq => hvar ⟨param, heq⟩
      refine ⟨fun _ => ⟨arg, List.mem_cons_self, hne⟩, fun _ => ?_⟩
      rw [parameterNames]
      · exact ⟨_, rfl⟩
      · exact hne

/-- A wrong control form is shown at its name. -/
theorem controlOf_error (h : controlOf form args position = .error err) :
    err.position = position ∧ err.found = some form.name ∧ err.fault.form? = some form.name := by
  unfold controlOf at h
  split at h
  · obtain rfl := Except.error.inj h
    exact ⟨rfl, rfl, rfl⟩
  · dsimp only at h
    split at h
    · rename_i herr
      obtain rfl := Except.error.inj h
      exact parameterNames_error herr
    · cases h
    · cases h

/-- A control form is wrong if the number of its arguments is, or else if something stands in the place of a parameter that is no
plain variable. -/
theorem exists_controlOf_error_iff :
    (∃ err, controlOf form args position = .error err) ↔
      args.length ≠ form.arity ∨
        ∃ k arg, form.leading ≤ k ∧ k < form.leading + form.parameters ∧ args[k]? = some arg ∧ ∀ param, arg ≠ .var param := by
  have hmem (arg : Expr) : arg ∈ (args.drop form.leading).take form.parameters ↔
      ∃ k, form.leading ≤ k ∧ k < form.leading + form.parameters ∧ args[k]? = some arg := by
    rw [List.mem_iff_getElem?]
    constructor
    · rintro ⟨j, hj⟩
      rw [List.getElem?_take] at hj
      split at hj
      · rename_i hlt
        rw [List.getElem?_drop] at hj
        exact ⟨form.leading + j, by omega, by omega, hj⟩
      · cases hj
    · rintro ⟨k, hle, hlt, hk⟩
      refine ⟨k - form.leading, ?_⟩
      rw [List.getElem?_take_of_lt (by omega), List.getElem?_drop, Nat.add_sub_cancel' hle]
      exact hk
  have hparams : (∃ err, parameterNames form position (form.leading + 1) ((args.drop form.leading).take form.parameters) =
        .error err) ↔
      ∃ k arg, form.leading ≤ k ∧ k < form.leading + form.parameters ∧ args[k]? = some arg ∧ ∀ param, arg ≠ .var param := by
    rw [exists_parameterNames_error_iff]
    constructor
    · rintro ⟨arg, harg, hne⟩
      obtain ⟨k, hle, hlt, hk⟩ := (hmem arg).1 harg
      exact ⟨k, arg, hle, hlt, hk, hne⟩
    · rintro ⟨k, arg, hle, hlt, hk, hne⟩
      exact ⟨arg, (hmem arg).2 ⟨k, hle, hlt, hk⟩, hne⟩
  unfold controlOf
  by_cases harity : args.length = form.arity
  · rw [if_neg fun hne => hne harity, ← hparams]
    dsimp only
    cases hresult : parameterNames form position (form.leading + 1) ((args.drop form.leading).take form.parameters) with
    | error err => exact ⟨fun _ => .inr ⟨err, rfl⟩, fun _ => ⟨err, rfl⟩⟩
    | ok params =>
      refine ⟨fun ⟨err, herr⟩ => ?_, fun h => ?_⟩
      · cases hdrop : args.drop (form.leading + form.parameters) <;> rw [hdrop] at herr <;> cases herr
      · rcases h with h | ⟨err, herr⟩
        · exact absurd harity h
        · cases herr
  · rw [if_pos harity]
    exact ⟨fun _ => .inl harity, fun _ => ⟨_, rfl⟩⟩

theorem callOf_error (h : callOf name args position = .error err) :
    ∃ form : ControlForm, form.name = name ∧ err.position = position ∧ err.found = some name ∧ err.fault.form? = some name := by
  unfold callOf at h
  split at h
  · rename_i form hform
    obtain rfl := ControlForm.name_of_ofName? hform
    exact ⟨form, rfl, controlOf_error h⟩
  · cases h

end TokenReader

/-! ## Where names stand -/

/-- Whether a token is the name of a control form. -/
def Token.Names (t : Token) (form : ControlForm) : Prop :=
  t.kind = .name form.name ∨ t.kind = .keyword .if ∧ form = .if

section

variable (stands : ControlForm → Nat → Prop)

/-- The name of a form that a token is stands where the token does. -/
def Token.Shown (t : Token) : Prop := ∀ form, t.Names form → stands form t.position

/-- A fault of a call is shown where the name of its form stands. -/
def SyntaxError.Shown (err : SyntaxError) : Prop :=
  ∀ name, err.fault.form? = some name → ∃ form : ControlForm, form.name = name ∧ err.found = some name ∧ stands form err.position

/-- All that is in sight or to come is shown where it stands. -/
structure TokenView.Shown (v : TokenView) : Prop where
  current : v.current.Shown stands
  token : ∀ t, .ok t ∈ v.rest → t.Shown stands
  error : ∀ err, .error err ∈ v.rest → err.Shown stands

/-- From a view a reader comes to such a view again, or reports a call at its name. -/
def TokenReader.Reports {α : Type} (v : TokenView) (p : TokenReader α) : Prop :=
  (∀ err, p.run v = .error err → err.Shown stands) ∧ ∀ a w, p.run v = .ok (a, w) → w.Shown stands

/-- A reader that reports calls at their names. -/
def TokenReader.Reliable {α : Type} (p : TokenReader α) : Prop := ∀ ⦃v : TokenView⦄, v.Shown stands → p.Reports stands v

end

variable {stands : ControlForm → Nat → Prop}

/-- A fault that is not about a call may be shown anywhere. -/
theorem SyntaxError.shown_of_form? {err : SyntaxError} (h : err.fault.form? = none) : err.Shown stands := by
  intro name hname
  cases h.symm.trans hname

namespace TokenReader

variable {α β : Type} {v w : TokenView} {name : String}

/-! ## The smallest readers -/

theorem shown_ending (position : Nat) : (Token.ending position).Shown stands := by
  rintro form (h | ⟨h, _⟩) <;> cases h

/-- What comes in sight next is shown where it stands. -/
theorem shown_pull (h : v.Shown stands) :
    (∀ err, pull v.current.stop v.rest = .error err → err.Shown stands) ∧
      ∀ w, pull v.current.stop v.rest = .ok w → w.Shown stands := by
  obtain ⟨_, htoken, herror⟩ := h
  cases hrest : v.rest with
  | nil =>
    refine ⟨fun err herr => ?_, fun w hw => ?_⟩
    · cases herr
    · obtain rfl := Except.ok.inj hw
      exact ⟨shown_ending _, fun _ ht => absurd ht List.not_mem_nil, fun _ herr => absurd herr List.not_mem_nil⟩
  | cons next rest =>
    rw [hrest] at htoken herror
    cases next with
    | ok t =>
      refine ⟨fun err herr => ?_, fun w hw => ?_⟩
      · cases herr
      · obtain rfl := Except.ok.inj hw
        exact ⟨htoken t List.mem_cons_self, fun u hu => htoken u (List.mem_cons_of_mem _ hu),
          fun err herr => herror err (List.mem_cons_of_mem _ herr)⟩
    | error e =>
      refine ⟨fun err herr => ?_, fun w hw => ?_⟩
      · obtain rfl := Except.error.inj herr
        exact herror _ List.mem_cons_self
      · cases hw

theorem reports_of_ok {p : TokenReader α} {a : α} (hrun : p.run v = .ok (a, w)) (hw : w.Shown stands) :
    p.Reports stands v := by
  refine ⟨fun err herr => ?_, fun b u hu => ?_⟩
  · cases hrun.symm.trans herr
  · obtain ⟨_, rfl⟩ := Prod.mk.inj (Except.ok.inj (hrun.symm.trans hu))
    exact hw

theorem reports_of_error {p : TokenReader α} {err : SyntaxError} (hrun : p.run v = .error err) (herr : err.Shown stands) :
    p.Reports stands v := by
  refine ⟨fun err' herr' => ?_, fun b u hu => ?_⟩
  · obtain rfl := Except.error.inj (hrun.symm.trans herr')
    exact herr
  · cases hrun.symm.trans hu

theorem reliable_pure (a : α) : (pure a : TokenReader α).Reliable stands := fun _ h => reports_of_ok rfl h

theorem Reports.bind {p : TokenReader α} {f : α → TokenReader β} (hp : p.Reports stands v)
    (hf : ∀ a, (f a).Reliable stands) : (p >>= f).Reports stands v := by
  cases hrun : p.run v with
  | error err =>
    have hbind : (p >>= f).run v = .error err := by
      rw [StateT.run_bind, hrun]
      rfl
    exact reports_of_error hbind (hp.1 err hrun)
  | ok r =>
    unfold Reports
    rw [StateT.run_bind, hrun]
    exact hf r.1 (hp.2 r.1 r.2 hrun)

theorem Reliable.bind {p : TokenReader α} {f : α → TokenReader β} (hp : p.Reliable stands)
    (hf : ∀ a, (f a).Reliable stands) : (p >>= f).Reliable stands := fun _ h => (hp h).bind hf

theorem reliable_fail {fault : SyntaxFault} (h : fault.form? = none) : (fail fault : TokenReader α).Reliable stands := by
  exact fun v _ => reports_of_error rfl (SyntaxError.shown_of_form? h)

theorem reports_peek_bind {f : TokenKind → TokenReader β} (hf : (f v.current.kind).Reports stands v) :
    (peek >>= f).Reports stands v := hf

theorem reliable_peek_bind {f : TokenKind → TokenReader β} (hf : ∀ k, (f k).Reliable stands) :
    (peek >>= f).Reliable stands := fun v h => reports_peek_bind (hf v.current.kind h)

theorem reports_bump_bind {f : Token → TokenReader β} (h : v.Shown stands) (hf : (f v.current).Reliable stands) :
    (bump >>= f).Reports stands v := by
  obtain ⟨herror, hok⟩ := shown_pull h
  cases hpull : pull v.current.stop v.rest with
  | error err =>
    have hrun : (bump >>= f).run v = .error err := by
      rw [StateT.run_bind, run_bump, hpull]
      rfl
    exact reports_of_error hrun (herror err hpull)
  | ok w =>
    unfold Reports
    rw [run_bump_bind hpull]
    exact hf (hok w hpull)

theorem reliable_discard_bump : (discard bump : TokenReader Unit).Reliable stands := by
  intro v h
  obtain ⟨herror, hok⟩ := shown_pull h
  have hrun := run_discard_bump (v := v)
  cases hpull : pull v.current.stop v.rest with
  | error err =>
    rw [hpull] at hrun
    exact reports_of_error hrun (herror err hpull)
  | ok w =>
    rw [hpull] at hrun
    exact reports_of_ok hrun (hok w hpull)

theorem reliable_sees (m : Mark) : (sees m).Reliable stands := by
  intro v h
  obtain ⟨b, hb, _⟩ := run_sees (v := v) (m := m)
  exact reports_of_ok hb h

theorem reliable_expect {m : Mark} {fault : SyntaxFault} (h : fault.form? = none) : (expect m fault).Reliable stands := by
  refine reliable_peek_bind fun k => ?_
  split
  · split
    · exact reliable_discard_bump
    · exact reliable_fail h
  · exact reliable_fail h

theorem reliable_lift {x : Except SyntaxError α} (h : ∀ err, x = .error err → err.Shown stands) :
    (monadLift x : TokenReader α).Reliable stands := by
  intro v hv
  cases x with
  | error err => exact reports_of_error rfl (h err rfl)
  | ok a => exact reports_of_ok rfl hv

/-! ## Operators -/

variable {operand expr inner unary : TokenReader Expr}

theorem reliable_chainFrom (operators : Operators) (ho : operand.Reliable stands) (fuel : Nat) (left : Expr) :
    (chainFrom operators operand fuel left).Reliable stands := by
  induction fuel generalizing left with
  | zero => exact reliable_pure left
  | succ fuel ih =>
    refine reliable_peek_bind fun k => ?_
    split
    · split
      · exact reliable_discard_bump.bind fun _ => ho.bind fun right => ih _
      · exact reliable_pure left
    · exact reliable_pure left

theorem reliable_binary (hu : unary.Reliable stands) (fuel : Nat) : (binary fuel unary).Reliable stands := by
  unfold binary
  induction levels with
  | nil => exact hu
  | cons operators rest ih => exact ih.bind fun left => reliable_chainFrom operators ih fuel left

theorem reliable_conditional (he : expr.Reliable stands) (hu : unary.Reliable stands) (fuel : Nat) :
    (conditional fuel expr unary).Reliable stands := by
  refine (reliable_binary hu fuel).bind fun condition => (reliable_sees .question).bind fun b => ?_
  cases b with
  | true =>
    refine reliable_discard_bump.bind fun _ => he.bind fun yes => (reliable_expect rfl).bind fun _ => ?_
    exact he.bind fun no => reliable_pure _
  | false => exact reliable_pure condition

/-! ## Calls and operands -/

theorem reliable_callOf {position : Nat} (h : ∀ form : ControlForm, form.name = name → stands form position) (args : List Expr) :
    (monadLift (callOf name args position) : TokenReader Expr).Reliable stands := by
  refine reliable_lift fun err herr other hother => ?_
  obtain ⟨form, hname, hposition, hfound, hfault⟩ := callOf_error herr
  obtain rfl := Option.some.inj (hfault.symm.trans hother)
  exact ⟨form, hname, hfound, hposition ▸ h form hname⟩

theorem reliable_itemsFrom (he : expr.Reliable stands) (close : Mark) {fault : SyntaxFault} (h : fault.form? = none) (fuel : Nat) :
    (itemsFrom expr close fault fuel).Reliable stands := by
  induction fuel with
  | zero => exact reliable_fail h
  | succ fuel ih =>
    refine he.bind fun item => (reliable_sees .comma).bind fun b => ?_
    cases b with
    | true => exact reliable_discard_bump.bind fun _ => ih.bind fun rest => reliable_pure _
    | false =>
      refine (reliable_sees close).bind fun b => ?_
      cases b with
      | true => exact reliable_discard_bump.bind fun _ => reliable_pure _
      | false => exact reliable_fail h

theorem reliable_items (he : expr.Reliable stands) (close : Mark) {fault : SyntaxFault} (h : fault.form? = none) (fuel : Nat) :
    (items fuel expr close fault).Reliable stands := by
  refine (reliable_sees close).bind fun b => ?_
  cases b with
  | true => exact reliable_discard_bump.bind fun _ => reliable_pure _
  | false => exact reliable_itemsFrom he close h fuel

theorem reliable_arguments (he : expr.Reliable stands) (fuel : Nat) : (arguments fuel expr).Reliable stands :=
  (reliable_expect rfl).bind fun _ => reliable_items he .closeParen rfl fuel

theorem reliable_literal (l : Literal) : (literal l).Reliable stands := reliable_discard_bump.bind fun _ => reliable_pure _

theorem form?_of_regexOf {source : String} {ignoreCase : Bool} {position : Nat} {err : SyntaxError}
    (h : regexOf source ignoreCase position = .error err) : err.fault.form? = none := by
  unfold regexOf at h
  cases hbuild : Regex.build source ignoreCase with
  | error f =>
    rw [hbuild] at h
    obtain rfl := Except.error.inj h
    rfl
  | ok => rw [hbuild] at h; cases h

theorem reliable_get : (get : TokenReader TokenView).Reliable stands := fun _ h => reports_of_ok rfl h

/-- An operand: where it is a call, the token in sight is the name. -/
theorem reliable_atom (he : expr.Reliable stands) (fuel : Nat) : (atom fuel expr).Reliable stands := by
  intro v hv
  refine reports_peek_bind ?_
  have hplace := hv.current
  cases hk : v.current.kind with
  | number x => exact reliable_literal _ hv
  | string s => exact reliable_literal _ hv
  | regex source ignoreCase =>
    refine Reports.bind (reliable_get hv) fun u => ?_
    refine (reliable_lift fun err herr => ?_).bind fun r => reliable_literal _
    exact SyntaxError.shown_of_form? (form?_of_regexOf herr)
  | keyword k =>
    cases k with
    | «if» =>
      refine reports_bump_bind hv ((reliable_sees .openParen).bind fun b => ?_)
      cases b with
      | true =>
        refine (reliable_arguments he fuel).bind fun args => reliable_callOf (fun form hform => hv.current form ?_) args
        exact .inr ⟨hk, ControlForm.eq_of_name_eq hform⟩
      | false => exact reliable_fail rfl
    | _ => exact reliable_literal _ hv
  | name name =>
    refine reports_bump_bind hv ((reliable_sees .openParen).bind fun b => ?_)
    cases b with
    | true =>
      refine (reliable_arguments he fuel).bind fun args => reliable_callOf (fun form hform => hv.current form ?_) args
      exact .inl (hform ▸ hk)
    | false => exact reliable_pure _
  | mark m =>
    cases m with
    | openParen =>
      exact (reliable_discard_bump.bind fun _ => he.bind fun e => (reliable_expect rfl).bind fun _ => reliable_pure e) hv
    | openBracket =>
      exact (reliable_discard_bump.bind fun _ => (reliable_items he .closeBracket rfl fuel).bind fun items => reliable_pure _) hv
    | _ => exact reliable_fail rfl hv
  | finish => exact reliable_fail rfl hv

/-- What follows an operand: where it is a call, the name is in sight after the point. -/
theorem reliable_suffixesFrom (he : expr.Reliable stands) (fuel count : Nat) (base : Expr) :
    (suffixesFrom fuel expr count base).Reliable stands := by
  induction count generalizing base with
  | zero => exact reliable_pure base
  | succ count ih =>
    refine (reliable_sees .dot).bind fun b => ?_
    cases b with
    | true =>
      refine reliable_discard_bump.bind fun _ v hv => reports_peek_bind ?_
      cases hk : v.current.kind with
      | name name =>
        refine reports_bump_bind hv ((reliable_sees .openParen).bind fun b => ?_)
        cases b with
        | true =>
          refine (reliable_arguments he fuel).bind fun args => Reliable.bind ?_ ih
          exact reliable_callOf (fun form hform => hv.current form (.inl (hform ▸ hk))) (base :: args)
        | false => exact ih _
      | _ => exact reliable_fail rfl hv
    | false =>
      refine (reliable_sees .openBracket).bind fun b => ?_
      cases b with
      | true =>
        exact reliable_discard_bump.bind fun _ => he.bind fun position => (reliable_expect rfl).bind fun _ => ih _
      | false => exact reliable_pure base

theorem reliable_suffixed (he : expr.Reliable stands) (fuel : Nat) : (suffixed fuel expr).Reliable stands :=
  (reliable_atom he fuel).bind fun base => reliable_suffixesFrom he fuel fuel base

theorem reliable_unaryWith (hi : inner.Reliable stands) (he : expr.Reliable stands) (fuel : Nat) :
    (unaryWith fuel inner expr).Reliable stands := by
  refine reliable_peek_bind fun k => ?_
  split
  · exact reliable_discard_bump.bind fun _ => hi.bind fun operand => reliable_pure _
  · exact reliable_suffixed he fuel

theorem reliable_level (fuel budget : Nat) :
    (level fuel budget).expr.Reliable stands ∧ (level fuel budget).unary.Reliable stands := by
  induction budget with
  | zero => exact ⟨reliable_fail rfl, reliable_unaryWith (reliable_fail rfl) (reliable_fail rfl) fuel⟩
  | succ budget ih =>
    have hexpr : (conditional fuel (level fuel budget).expr (level fuel budget).unary).Reliable stands :=
      reliable_conditional ih.1 ih.2 fuel
    exact ⟨hexpr, reliable_unaryWith ih.2 hexpr fuel⟩

theorem reliable_whole (fuel : Nat) : (whole fuel).Reliable stands := by
  refine (reliable_level fuel maxNesting).1.bind fun e => reliable_peek_bind fun k => ?_
  split
  · exact reliable_pure e
  · exact reliable_fail rfl

end TokenReader

/-- In a stream of tokens that are shown where they stand, a fault of a call is shown where the name of its form stands. -/
theorem Expr.shown_of_ofStream {s : TokenStream} {err : SyntaxError} (htoken : ∀ t, .ok t ∈ s → t.Shown stands)
    (herror : ∀ err, .error err ∈ s → err.Shown stands) (h : ofStream s = .error err) : err.Shown stands := by
  have hview : (⟨.ending 0, s⟩ : TokenView).Shown stands := ⟨TokenReader.shown_ending 0, htoken, herror⟩
  obtain ⟨hpullError, hpullOk⟩ := TokenReader.shown_pull hview
  unfold ofStream at h
  cases hpull : TokenReader.pull 0 s with
  | error err' =>
    rw [hpull] at h
    obtain rfl := Except.error.inj h
    exact hpullError _ hpull
  | ok v =>
    rw [hpull] at h
    have hreports := TokenReader.reliable_whole (s.length + 1) (hpullOk v hpull)
    cases hrun : (TokenReader.whole (s.length + 1)).run v with
    | error err' =>
      refine hreports.1 err ?_
      simpa [hrun, bind, Except.bind] using h
    | ok r => simp [hrun, bind, Except.bind, pure, Except.pure] at h

end CellExpr
