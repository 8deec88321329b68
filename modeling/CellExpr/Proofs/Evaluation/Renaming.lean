import CellExpr.Proofs.Evaluation.FreeVariables

/-!
# Renaming parameters

What a parameter is called does not matter (`eval_rename_param`): with a name that does not come up in the body, in the place of the
parameter and of the variable where the body has it free, a control form has the value that it had. For the body is evaluated alike
in scopes that agree along the renaming (`Expr.eval_rename`). An inner form may bind the old name again; from there on nothing is
renamed. None may bind the new name, which would capture it.
-/

namespace CellExpr

/-- What a variable is called when `v` is called `w`. -/
def renamed (v w name : String) : String := if name = v then w else name

variable {v w name : String} {params params' : List String} {values : List Value}

theorem renamed_self (v w : String) : renamed v w v = w := if_pos rfl

theorem renamed_of_ne (h : name ≠ v) : renamed v w name = name := if_neg h

/-- Names are kept apart, unless one of them was the new name already. -/
theorem eq_of_renamed_eq {other : String} (hother : other ≠ v → other ≠ w) (hname : name ≠ w)
    (h : renamed v w other = renamed v w name) : other = name := by
  by_cases hv : other = v
  · by_cases hv' : name = v
    · exact hv.trans hv'.symm
    · rw [hv, renamed_self, renamed_of_ne hv'] at h
      exact absurd h.symm hname
  · rw [renamed_of_ne hv] at h
    by_cases hv' : name = v
    · rw [hv', renamed_self] at h
      exact absurd h (hother hv)
    · rwa [renamed_of_ne hv'] at h

/-- The parameters with another name for one of them, if no other one has its name. -/
theorem set_eq_map_renamed {k : Nat} (hk : params[k]? = some v) (hother : ∀ j, j ≠ k → params[j]? ≠ some v) :
    params.set k w = params.map (renamed v w) := by
  refine List.ext_getElem? fun j => ?_
  rw [List.getElem?_map]
  by_cases hj : j = k
  · subst hj
    rw [List.getElem?_set_self (List.getElem?_eq_some_iff.1 hk).1, hk, Option.map_some, renamed_self]
  · rw [List.getElem?_set_ne (Ne.symm hj)]
    cases hp : params[j]? with
    | none => rfl
    | some p =>
      have hne : p ≠ v := fun heq => hother j hj (hp.trans (congrArg some heq))
      rw [Option.map_some, renamed_of_ne hne]

/-! ## Frames and scopes along a renaming -/

theorem Frame.lookup_ofPairs_map {σ : String → String} {pairs : List (String × Value)}
    (h : ∀ p ∈ pairs, σ p.1 = σ name → p.1 = name) :
    (ofPairs (pairs.map (Prod.map σ id))).lookup (σ name) = (ofPairs pairs).lookup name := by
  induction pairs using List.reverseRecOn with
  | nil => rfl
  | append_singleton pairs p ih =>
    have hlast : σ name = σ p.1 ↔ name = p.1 :=
      ⟨fun heq => (h p (List.mem_append_right _ List.mem_cons_self) heq.symm).symm, congrArg σ⟩
    rw [List.map_append, List.map_singleton, ofPairs, ofPairs, List.foldl_concat, List.foldl_concat, ← ofPairs, ← ofPairs,
      lookup_set, lookup_set, ih fun p hp => h p (List.mem_append_left _ hp)]
    simp only [Prod.map, id, hlast]

theorem Frame.ofParams_take (params : List String) (values : List Value) :
    ofParams (params.take values.length) values = ofParams params values := by
  have hzip : (params.take values.length).zip values = params.zip values := by
    induction params generalizing values with
    | nil => rw [List.take_nil]
    | cons param params ih =>
      cases values with
      | nil => rfl
      | cons v values => exact congrArg (_ :: ·) (ih values)
  rw [ofParams, hzip, ofParams]

/-- With parameters renamed a frame has under a new name what it had under the old one. -/
theorem Frame.lookup_ofParams_renamed {σ : String → String}
    (hparams : params'.take values.length = (params.take values.length).map σ)
    (h : ∀ p ∈ params.take values.length, σ p = σ name → p = name) :
    (ofParams params' values).lookup (σ name) = (ofParams params values).lookup name := by
  rw [← ofParams_take params', ← ofParams_take params, hparams, ofParams, ofParams, List.zip_map_left]
  exact lookup_ofPairs_map fun p hp => h p.1 (List.of_mem_zip hp).1

theorem Scope.get?_enter_renamed {s s' : Scope} {σ : String → String}
    (hparams : params'.take values.length = (params.take values.length).map σ)
    (h : ∀ p ∈ params.take values.length, σ p = σ name → p = name)
    (hs : name ∉ params.take values.length → s'.get? (σ name) = s.get? name) :
    (s'.enter (.ofParams params' values)).get? (σ name) = (s.enter (.ofParams params values)).get? name :=
  get?_enter_congr (Frame.lookup_ofParams_renamed hparams h) fun hnone => hs (Frame.not_mem_of_lookup_ofParams hnone)

/-! ## Expressions -/

namespace Expr

mutual

/-- The names of variables and parameters in an expression. -/
def names : Expr → List String
  | literal _ => []
  | var name => [name]
  | field base _ => base.names
  | index base position => base.names ++ position.names
  | array items => namesIn items
  | call _ args => namesIn args
  | control _ args none => namesIn args
  | control _ args (some ⟨params, body⟩) => namesIn args ++ (params ++ body.names)
  | unary _ operand => operand.names
  | binary _ left right => left.names ++ right.names
  | conditional condition yes no => condition.names ++ yes.names ++ no.names

/-- The names of variables and parameters in some expressions. -/
def namesIn : List Expr → List String
  | [] => []
  | e :: rest => e.names ++ namesIn rest

end

mutual

/-- The expression with the variable `v` called `w` wherever it is free. -/
def rename (v w : String) : Expr → Expr
  | literal l => literal l
  | var name => var (renamed v w name)
  | field base name => field (base.rename v w) name
  | index base position => index (base.rename v w) (position.rename v w)
  | array items => array (renameIn v w items)
  | call name args => call name (renameIn v w args)
  | control form args none => control form (renameIn v w args) none
  | control form args (some ⟨params, body⟩) =>
    control form (renameIn v w args) (some ⟨params, if v ∈ params.take form.parameters then body else body.rename v w⟩)
  | unary op operand => unary op (operand.rename v w)
  | binary op left right => binary op (left.rename v w) (right.rename v w)
  | conditional condition yes no => conditional (condition.rename v w) (yes.rename v w) (no.rename v w)

/-- Some expressions with the variable `v` called `w` wherever it is free. -/
def renameIn (v w : String) : List Expr → List Expr
  | [] => []
  | e :: rest => e.rename v w :: renameIn v w rest

end

theorem namesIn_eq_flatMap (es : List Expr) : namesIn es = es.flatMap names := by
  induction es with
  | nil => rfl
  | cons e rest ih => rw [namesIn, ih, List.flatMap_cons]

theorem renameIn_eq_map (v w : String) (es : List Expr) : renameIn v w es = es.map (rename v w) := by
  induction es with
  | nil => rfl
  | cons e rest ih => rw [renameIn, ih, List.map_cons]

theorem names_subset_of_mem_parts {part e : Expr} (h : part ∈ e.parts) : part.names ⊆ e.names := by
  have hlist {es : List Expr} (h : part ∈ es) : part.names ⊆ namesIn es := by
    rw [namesIn_eq_flatMap]
    exact fun name hname => List.mem_flatMap.2 ⟨part, h, hname⟩
  cases e with
  | literal l => cases h
  | var name => cases h
  | array items => exact hlist h
  | call name args => exact hlist h
  | control form args body =>
    rcases body with _ | ⟨params, body⟩
    · exact hlist h
    · rcases List.mem_append.1 h with h | h
      · exact List.subset_append_of_subset_left _ (hlist h)
      · obtain rfl := List.mem_singleton.1 h
        exact List.subset_append_of_subset_right _ (List.subset_append_right _ _)
  | _ =>
    simp only [parts, List.mem_cons, List.not_mem_nil, or_false] at h
    rcases h with rfl | rfl | rfl <;> simp [names]

/-- A variable that is free in an expression is the expression or free in one of its parts. -/
theorem eq_or_exists_part_of_mem_freeVars {e : Expr} (h : name ∈ e.freeVars) :
    e = var name ∨ ∃ part ∈ e.parts, name ∈ part.freeVars := by
  have hlist {es : List Expr} (h : name ∈ freeVarsIn es) : ∃ part ∈ es, name ∈ part.freeVars := by
    rw [freeVarsIn_eq_flatMap] at h
    exact List.mem_flatMap.1 h
  cases e with
  | literal l => cases h
  | var other => exact .inl (congrArg var (List.mem_singleton.1 h).symm)
  | array items => exact .inr (hlist h)
  | call other args => exact .inr (hlist h)
  | control form args body =>
    rcases body with _ | ⟨params, body⟩
    · exact .inr (hlist h)
    · rcases List.mem_append.1 h with h | h
      · obtain ⟨part, hpart, h⟩ := hlist h
        exact .inr ⟨part, List.mem_append_left _ hpart, h⟩
      · exact .inr ⟨body, List.mem_append_right _ List.mem_cons_self, (List.mem_filter.1 h).1⟩
  | _ => exact .inr (by simpa [freeVars, parts, or_assoc] using h)

theorem freeVars_subset_names (e : Expr) : e.freeVars ⊆ e.names := by
  induction e using induction_parts with
  | step e ih =>
    intro name hname
    rcases eq_or_exists_part_of_mem_freeVars hname with rfl | ⟨part, hpart, hname⟩
    · exact List.mem_cons_self
    · exact names_subset_of_mem_parts hpart (ih part hpart hname)

/-- A body is renamed if the form does not bind the old name. -/
def renameBody (v w : String) (form : ControlForm) (l : Lambda Expr) : Lambda Expr :=
  ⟨l.params, if v ∈ l.params.take form.parameters then l.body else l.body.rename v w⟩

theorem rename_eq_mapParts {e : Expr} (h : ∀ name, e ≠ var name) : e.rename v w = e.mapParts (rename v w) (renameBody v w) := by
  cases e with
  | var name => exact absurd rfl (h name)
  | control form args body => rcases body with _ | ⟨params, body⟩ <;> rw [rename, mapParts, renameIn_eq_map] <;> rfl
  | array | call => rw [rename, mapParts, renameIn_eq_map]
  | _ => rfl

/-- An expression with a variable renamed is evaluated alike in a scope that agrees along the renaming, if the variable stands for
something and the new name does not come up in the expression. -/
theorem eval_rename {r : Registry} (hr : ∀ f ∈ r.functions, f.IgnoresScope) {e : Expr} {s s' : Scope} (hw : w ∉ e.names)
    (hv : (s.get? v).isSome) (hs : ∀ name ∈ e.freeVars, s'.get? (renamed v w name) = s.get? name) :
    (e.rename v w).eval r s' = e.eval r s := by
  induction e using induction_parts generalizing s s' with
  | step e ih =>
    by_cases hvar : ∃ name, e = var name
    · obtain ⟨name, rfl⟩ := hvar
      rw [rename, eval, eval, hs name List.mem_cons_self]
      by_cases hname : name = v
      · obtain ⟨value, hvalue⟩ := Option.isSome_iff_exists.1 hv
        rw [hname, hvalue]
        rfl
      · rw [renamed_of_ne hname]
    · have hne : ∀ name, e ≠ var name := fun name heq => hvar ⟨name, heq⟩
      rw [rename_eq_mapParts hne]
      refine eval_mapParts (fun part hpart => ?_) ?_ (fun name heq => absurd heq (hne name))
        (fun name _ _ values => r.call_congr_scope hr name values)
      · have hpart' := mem_parts_of_mem_outerParts hpart
        refine ih part hpart' (fun hmem => hw (names_subset_of_mem_parts hpart' hmem)) hv fun name hname => hs name ?_
        exact freeVars_subset_of_mem_outerParts hpart hname
      · rintro form args ⟨params, body⟩ rfl values hvalues
        have hbody : body ∈ (control form args (some ⟨params, body⟩)).parts := List.mem_append_right args List.mem_cons_self
        have hfresh : w ∉ body.names := fun hmem => hw (names_subset_of_mem_parts hbody hmem)
        have hparams : w ∉ params := fun hmem => hw (List.mem_append_right _ (List.mem_append_left _ hmem))
        unfold renameBody
        dsimp only
        split
        · -- the form binds the old name again
          rename_i hbound
          refine eval_congr_freeVars hr fun name hname => Scope.get?_enter_ofParams fun hparam => ?_
          rw [hvalues] at hparam
          have hne : name ≠ v := fun heq => hparam (heq ▸ hbound)
          rw [← hs name (mem_freeVars_control hname hparam), renamed_of_ne hne]
        · -- its frame has nothing under either name, so the scopes within it agree along the renaming too
          rename_i hbound
          rw [← hvalues] at hbound
          have hkept : ∀ p ∈ params.take values.length, renamed v w p = p :=
            fun p hp => renamed_of_ne fun heq => hbound (heq ▸ hp)
          have hsame : params.take values.length = (params.take values.length).map (renamed v w) := by
            rw [List.map_congr_left hkept, List.map_id']
          refine ih body hbody hfresh ?_ fun name hname => Scope.get?_enter_renamed hsame ?_ fun hparam => ?_
          · rw [Scope.get?_enter]
            cases (Frame.ofParams params values).lookup v with
            | none => exact hv
            | some => rfl
          · intro p hp heq
            have hpw : p ≠ w := fun h => hparams (h ▸ List.mem_of_mem_take hp)
            have hnamew : name ≠ w := fun h => hfresh (h ▸ freeVars_subset_names body hname)
            exact eq_of_renamed_eq (fun _ => hpw) hnamew heq
          · exact hs name (mem_freeVars_control hname (hvalues ▸ hparam))

end Expr

/-- A control form with one of its parameters renamed, together with the variable in its body, has the same value and trace in every
scope under the standard functions, that which tells the time left out. The old name is that of this parameter alone, and the new
one is no name of another parameter and does not come up in the body. -/
theorem eval_rename_param (now : Calendar.Instant) {form : ControlForm} {args : List Expr} {params : List String} {body : Expr}
    {v w : String} {k : Nat} (hlength : params.length = form.parameters) (hk : params[k]? = some v)
    (hother : ∀ j p, j ≠ k → params[j]? = some p → p ≠ v ∧ p ≠ w) (hw : w ∉ body.names) (s : Scope) :
    (Expr.control form args (some ⟨params.set k w, body.rename v w⟩)).eval ((Registry.standard now).without "now") s =
      (Expr.control form args (some ⟨params, body⟩)).eval ((Registry.standard now).without "now") s := by
  have hignores := Registry.ignoresScope_without now "now"
  generalize (Registry.standard now).without "now" = r at hignores
  have hset := set_eq_map_renamed (w := w) hk fun j hj hp => (hother j v hj hp).1 rfl
  have hv : v ∈ params := List.mem_of_getElem? hk
  have hbody : ∀ values : List Value, values.length = form.parameters →
      (body.rename v w).eval r (s.enter (.ofParams (params.set k w) values)) =
        body.eval r (s.enter (.ofParams params values)) := by
    intro values hvalues
    have htake : params.take values.length = params := List.take_of_length_le (by omega)
    refine Expr.eval_rename hignores hw ?_ fun name hname => Scope.get?_enter_renamed ?_ ?_ fun hparam => ?_
    · obtain ⟨value, hvalue⟩ := Frame.exists_lookup_ofParams (htake.symm ▸ hv)
      rw [Scope.get?_enter, hvalue]
      rfl
    · rw [htake, hset, List.take_of_length_le (by rw [List.length_map]; omega)]
    · intro p hp heq
      have hnamew : name ≠ w := fun h => hw (h ▸ Expr.freeVars_subset_names body hname)
      refine eq_of_renamed_eq (fun hne => ?_) hnamew heq
      obtain ⟨j, hj⟩ := List.mem_iff_getElem?.1 (htake ▸ hp)
      have hjk : j ≠ k := fun h => hne (Option.some.inj ((h ▸ hj).symm.trans hk))
      exact (hother j p hjk hj).2
    · have hne : name ≠ v := fun h => hparam (htake.symm ▸ h.symm ▸ hv)
      rw [renamed_of_ne hne]
  let other : Lambda Expr → Lambda Expr := fun _ => ⟨params.set k w, body.rename v w⟩
  have heval : (Expr.control form (args.map id) (Option.map other (some ⟨params, body⟩))).eval r s =
      (Expr.control form args (some ⟨params, body⟩)).eval r s := by
    refine Expr.eval_control_map (fun _ _ => rfl) ?_
    rintro _ ⟨⟩ values hvalues
    exact hbody values hvalues
  rwa [List.map_id] at heval

/-- The body of `forEachIndex(xs, i, v, i + forEach([v], v, v + i) + v)` -/
def shadowingBody : Expr :=
  .binary .add (.binary .add (.var "i")
    (.control .forEach [.array [.var "v"]] (some ⟨["v"], .binary .add (.var "v") (.var "i")⟩))) (.var "v")

/-- The element is called `w` in place of `v`, but within the inner loop, which has a `v` of its own. -/
theorem eval_rename_param_shadowingBody :
    shadowingBody.rename "v" "w" =
        .binary .add (.binary .add (.var "i")
          (.control .forEach [.array [.var "w"]] (some ⟨["v"], .binary .add (.var "v") (.var "i")⟩))) (.var "w") ∧
      (Expr.control .forEachIndex [.var "xs"] (some ⟨["i", "w"], shadowingBody.rename "v" "w"⟩)).eval
          ((Registry.standard ⟨0, 0, by decide⟩).without "now") [[("xs", .array [.string "a"]), ("w", .null)]] =
        (Expr.control .forEachIndex [.var "xs"] (some ⟨["i", "v"], shadowingBody⟩)).eval
          ((Registry.standard ⟨0, 0, by decide⟩).without "now") [[("xs", .array [.string "a"]), ("w", .null)]] := by
  have hother : ∀ j p, j ≠ 1 → ["i", "v"][j]? = some p → p ≠ "v" ∧ p ≠ "w" := by
    rintro (_ | _ | _) p hj hp
    · obtain rfl := Option.some.inj hp
      decide
    · exact absurd rfl hj
    · cases hp
  have hfresh : "w" ∉ shadowingBody.names := by decide
  exact ⟨rfl, eval_rename_param ⟨0, 0, by decide⟩ rfl rfl hother hfresh _⟩

end CellExpr
