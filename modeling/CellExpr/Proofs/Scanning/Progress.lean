import CellExpr.Proofs.Grammar.ErrorPlaces
import CellExpr.Proofs.Grammar.FrontEnds
import CellExpr.Proofs.Scanning.Numbers
import Mathlib.Data.Nat.Find
import Mathlib.Order.Monotone.Basic

/-!
# Asking for more tokens

Whoever asks a source for more gets on in the text. What is given is the end of the text, at which the source stays, or it takes at
least one character and shows among those that it takes (`Reached.ending_or_onward`). Errors are no exception: each of them leaves off
after the place at which it shows (`position_lt_of_tokenRun`). So the end comes after no more calls than there are characters
(`Reached.exists_restsFrom`), and asking up to the end or the first error is the beginning of this run (`handsOut_readings`).
-/

namespace CellExpr

open TokenCursor

/-! ## What an error takes -/

namespace TokenCursor

variable {afterOperand : Bool} {start place n : Nat} {quote c : Char} {s code : List Char} {e : SyntaxError}

/-- A string with an escape at fault is taken up to the end of the code. -/
theorem length_of_badEscape (h : stringRun quote s = .badEscape place code n) : n = place + (code.length + 2) := by
  fun_induction stringRun quote s generalizing place n with
  | case1 => cases h
  | case2 => cases h
  | case3 a b c d rest ih =>
    unfold StringRun.afterCode at h
    split at h
    · obtain ⟨inner, length, hrun, rfl, rfl⟩ := StringRun.push_eq_badEscape.1 h
      rw [ih hrun]
      omega
    · cases h
      exact (Nat.zero_add _).symm
  | case4 code' =>
    unfold StringRun.afterCode at h
    split at h <;> cases h
    exact (Nat.zero_add _).symm
  | case5 c rest _ _ ih =>
    obtain ⟨inner, length, hrun, rfl, rfl⟩ := StringRun.push_eq_badEscape.1 h
    rw [ih hrun]
    omega
  | case6 => cases h
  | case7 c rest _ _ _ _ _ ih =>
    obtain ⟨inner, length, hrun, rfl, rfl⟩ := StringRun.push_eq_badEscape.1 h
    rw [ih hrun]
    omega

/-- An error shows among the characters that it takes. -/
theorem position_lt_of_tokenRun (h : tokenRun afterOperand start c s = (.error e, n)) : e.position < start + 1 + n := by
  have hstart : start < start + 1 + n := by omega
  unfold tokenRun at h
  split at h
  · dsimp only at h
    split at h <;> cases h
    exact hstart
  · split at h
    · cases h
    · split at h
      · split at h
        · cases h
        · rename_i hrun
          -- the escape shows after the quote, and what is taken goes on to the end of its code
          have hlength := length_of_badEscape hrun
          cases h
          dsimp only
          omega
        · cases h
          exact hstart
      · split at h
        · split at h <;> cases h
          exact hstart
        · split at h <;> cases h
          exact hstart

end TokenCursor

/-! ## One call -/

namespace TokenSource

/-- Where a token or an error shows. -/
def place : Except SyntaxError Token → Nat
  | .ok t => t.position
  | .error e => e.position

/-- Whether a token or an error is the last one that an iteration hands out. -/
def closes : Except SyntaxError Token → Bool
  | .ok t => isEnd (.ok t)
  | .error _ => true

/-- From one position to another in a text of so many characters a token or an error is given that is not the end of the text. At
least one character is taken, and the token or the error shows among those that are. -/
structure Onward (size start : Nat) (item : Except SyntaxError Token) (stop : Nat) : Prop where
  not_end : isEnd item = false
  advances : start < stop
  within : stop ≤ size
  shown : start ≤ place item ∧ place item < stop

end TokenSource

open TokenSource

/-- A cursor comes to the end of its text, or it goes on. -/
theorem TokenCursor.next_ending_or_onward (s : TokenCursor) :
    (s.next.1 = .ok (.ending (s.position + s.rest.length)) ∧ s.next.2.position = s.position + s.rest.length) ∨
      Onward (s.position + s.rest.length) s.position s.next.1 s.next.2.position := by
  obtain ⟨text, position, afterOperand⟩ := s
  obtain ⟨gap, ahead, rfl, hgap, hahead⟩ := exists_gap text
  cases ahead with
  | nil =>
    rw [List.append_nil, next_finish hgap]
    exact .inl ⟨rfl, rfl⟩
  | cons c rest =>
    right
    rw [next_of_tokenRun hgap (hahead c rfl)]
    have htaken := tokenRun_le afterOperand (position + gap.length) c rest
    cases hrun : tokenRun afterOperand (position + gap.length) c rest with
    | mk kind n =>
      rw [hrun] at htaken
      have hwithin : position + gap.length + 1 + n ≤ position + (gap ++ c :: rest).length := by
        rw [List.length_append, List.length_cons]
        omega
      have hadvances : position < position + gap.length + 1 + n := by omega
      cases kind with
      | ok k =>
        have hkind := (tokenRun_eq_ok_iff.1 hrun).canBeRead.2
        refine ⟨isEnd_eq_false hkind _ _, hadvances, hwithin, Nat.le_add_right .., ?_⟩
        exact Nat.lt_add_right _ (Nat.lt_succ_self _)
      | error e =>
        have hle := le_position_of_tokenRun hrun
        exact ⟨rfl, hadvances, hwithin, Nat.le_trans (Nat.le_add_right ..) hle, position_lt_of_tokenRun hrun⟩

variable {text : List Char} {s after : TokenSource} {item : Except SyntaxError Token} {n : Nat}

/-- What a source has passed and what is left are the characters of its text. -/
theorem Reached.length_eq (h : Reached text s) : s.cursor.position + s.cursor.rest.length = text.length := by
  induction h with
  | start => exact Nat.zero_add _
  | @step s after item _ hgives ih =>
    obtain ⟨n, hrest, hposition⟩ := next_advances s.cursor
    have hwithin : s.cursor.next.2.position ≤ s.cursor.position + s.cursor.rest.length := by
      rcases next_ending_or_onward s.cursor with ⟨_, hstop⟩ | honward
      · exact Nat.le_of_eq hstop
      · exact honward.within
    rw [hgives.next_cursor] at hrest hposition hwithin
    dsimp only at hrest hposition hwithin
    rw [hrest, List.length_drop]
    omega

theorem Reached.position_le (h : Reached text s) : s.cursor.position ≤ text.length :=
  h.length_eq ▸ Nat.le_add_right ..

/-- A source that is asked for more comes to the end of its text, or it goes on. -/
theorem Reached.ending_or_onward (h : Reached text s) (hgives : s.Gives item after) :
    (item = .ok (.ending text.length) ∧ after.cursor.position = text.length) ∨
      Onward text.length s.cursor.position item after.cursor.position := by
  have hnext := next_ending_or_onward s.cursor
  rwa [hgives.next_cursor, h.length_eq] at hnext

/-- At the end of its text a source gives the end and stays. -/
theorem Reached.read_ending (h : Reached text s) (hposition : s.cursor.position = text.length) :
    s.read.1 = .ok (.ending text.length) ∧ s.read.2.cursor.position = text.length := by
  rcases h.ending_or_onward .read with hending | honward
  · exact hending
  · have := honward.advances
    have := honward.within
    omega

/-- What is given shows no earlier than where the source stands. -/
theorem Reached.le_place (h : Reached text s) (hgives : s.Gives item after) : s.cursor.position ≤ place item := by
  rcases h.ending_or_onward hgives with ⟨rfl, -⟩ | honward
  · exact h.position_le
  · exact honward.shown.1

/-- What is given shows no later than where the source goes. -/
theorem Reached.place_le (h : Reached text s) (hgives : s.Gives item after) : place item ≤ after.cursor.position := by
  rcases h.ending_or_onward hgives with ⟨rfl, hstop⟩ | honward
  · exact Nat.le_of_eq hstop.symm
  · exact Nat.le_of_lt honward.shown.2

/-! ## Calls one after another -/

namespace TokenSource

/-- The source after so many calls, whatever they gave. -/
def afterReads (s : TokenSource) (n : Nat) : TokenSource := (fun s => s.read.2)^[n] s

/-- What the next call gives after so many. -/
def reading (s : TokenSource) (n : Nat) : Except SyntaxError Token := (s.afterReads n).read.1

/-- From so many calls on each of them gives the end of the text, and the source stays there. -/
def RestsFrom (s : TokenSource) (size n : Nat) : Prop :=
  ∀ m, n ≤ m → s.reading m = .ok (.ending size) ∧ (s.afterReads (m + 1)).cursor.position = size

theorem afterReads_succ (s : TokenSource) (n : Nat) : s.afterReads (n + 1) = (s.afterReads n).read.2 :=
  Function.iterate_succ_apply' ..

theorem gives_reading (s : TokenSource) (n : Nat) : (s.afterReads n).Gives (s.reading n) (s.afterReads (n + 1)) :=
  afterReads_succ s n ▸ .read

end TokenSource

theorem Reached.afterReads (h : Reached text s) (n : Nat) : Reached text (s.afterReads n) := by
  induction n with
  | zero => exact h
  | succ n ih => exact .step ih (s.gives_reading n)

/-- A source that has come to the end of its text stays there. -/
theorem Reached.restsFrom (h : Reached text s) (hitem : s.reading n = .ok (.ending text.length))
    (hstop : (s.afterReads (n + 1)).cursor.position = text.length) : s.RestsFrom text.length n := by
  intro m hm
  induction m, hm using Nat.le_induction with
  | base => exact ⟨hitem, hstop⟩
  | succ m _ ih =>
    rw [afterReads_succ]
    exact (h.afterReads (m + 1)).read_ending ih.2

/-- Each call comes to the end of the text and stays there, or it goes on. -/
theorem Reached.restsFrom_or_onward (h : Reached text s) (n : Nat) :
    s.RestsFrom text.length n ∨
      Onward text.length (s.afterReads n).cursor.position (s.reading n) (s.afterReads (n + 1)).cursor.position := by
  rcases (h.afterReads n).ending_or_onward (s.gives_reading n) with ⟨hitem, hstop⟩ | honward
  · exact .inl (h.restsFrom hitem hstop)
  · exact .inr honward

/-- As long as the end does not come, every call takes a character at least. -/
theorem Reached.restsFrom_or_add_le (h : Reached text s) (n : Nat) :
    (∃ m < n, s.RestsFrom text.length m) ∨ s.cursor.position + n ≤ (s.afterReads n).cursor.position := by
  induction n with
  | zero => exact .inr (Nat.le_refl _)
  | succ n ih =>
    rcases ih with ⟨m, hm, hrests⟩ | hle
    · exact .inl ⟨m, Nat.lt_succ_of_lt hm, hrests⟩
    · rcases h.restsFrom_or_onward n with hrests | honward
      · exact .inl ⟨n, Nat.lt_succ_self n, hrests⟩
      · have := honward.advances
        exact .inr (by omega)

/-- The end comes after no more calls than there are characters left. -/
theorem Reached.exists_restsFrom (h : Reached text s) :
    ∃ n, n ≤ text.length - s.cursor.position ∧ s.RestsFrom text.length n := by
  rcases h.restsFrom_or_add_le (text.length - s.cursor.position + 1) with ⟨n, hn, hrests⟩ | hle
  · exact ⟨n, Nat.le_of_lt_succ hn, hrests⟩
  · -- one call more than there are characters left would take the source past the end
    have := (h.afterReads (text.length - s.cursor.position + 1)).position_le
    have := h.position_le
    omega

/-- What is given later shows no earlier. -/
theorem Reached.monotone_place (h : Reached text s) : Monotone fun n => place (s.reading n) := by
  refine monotone_nat_of_le_succ fun n => ?_
  exact ((h.afterReads n).place_le (s.gives_reading n)).trans ((h.afterReads (n + 1)).le_place (s.gives_reading (n + 1)))

/-! ## Iteration -/

namespace TokenSource

/-- An iteration hands out what a call gives, and ends there or goes on from there. -/
theorem next?_eq (hended : s.ended = false) : s.next? = (some s.read.1, ⟨s.read.2.cursor, closes s.read.1⟩) := by
  unfold next? read
  rw [hended]
  generalize s.cursor.next = given
  obtain ⟨item, cursor⟩ := given
  cases item <;> rfl

theorem ended_read (hended : s.ended = false) (hitem : closes s.read.1 = false) : s.read.2.ended = false := by
  unfold read at hitem ⊢
  generalize s.cursor.next = given at hitem ⊢
  obtain ⟨item, cursor⟩ := given
  cases item with
  | error => cases hitem
  | ok t =>
    dsimp only
    rw [hended]
    exact hitem

/-- Asked for no more after the end or an error, a source hands out what the calls give up to the first of them. -/
theorem handsOut_readings (hended : s.ended = false) (hbefore : ∀ m < n, closes (s.reading m) = false)
    (hlast : closes (s.reading n) = true) : s.HandsOut ((List.range (n + 1)).map s.reading) := by
  induction n generalizing s with
  | zero =>
    have hlast : closes s.read.1 = true := hlast
    refine .cons (next?_eq hended) ?_
    rw [hlast]
    exact .ended _
  | succ n ih =>
    have hfirst : closes s.read.1 = false := hbefore 0 (Nat.succ_pos n)
    have hafter := ended_read hended hfirst
    have hrest : s.read.2.HandsOut ((List.range (n + 1)).map s.read.2.reading) :=
      ih hafter (fun m hm => hbefore (m + 1) (Nat.succ_lt_succ hm)) hlast
    -- the further calls are those of the source that the first call leaves
    rw [List.range_succ_eq_map, List.map_cons, List.map_map]
    refine .cons (next?_eq hended) ?_
    rw [hfirst, ← hafter]
    exact hrest

end TokenSource

/-- An iteration ends, at the end of the text or at the first error. -/
theorem Reached.exists_handsOut (h : Reached text s) (hended : s.ended = false) :
    ∃ n, (∀ m < n, closes (s.reading m) = false) ∧ closes (s.reading n) = true ∧
      s.HandsOut ((List.range (n + 1)).map s.reading) := by
  have hcloses : ∃ n, closes (s.reading n) = true := by
    obtain ⟨n, -, hrests⟩ := h.exists_restsFrom
    exact ⟨n, congrArg closes (hrests n (Nat.le_refl n)).1⟩
  have hbefore : ∀ m < Nat.find hcloses, closes (s.reading m) = false :=
    fun m hm => Bool.eq_false_iff.2 (Nat.find_min hcloses hm)
  have hlast := Nat.find_spec hcloses
  exact ⟨_, hbefore, hlast, handsOut_readings hended hbefore hlast⟩

/-- A source that comes of a text gets to its end, whatever it was asked for before and whatever errors are in the text. It stands in the
text at its position. Every call gives the end of the text and leaves the source there for ever, or it takes at least one character and
no more than there are, and shows among those it takes. The end comes after no more calls than there are characters left, what is given
later shows no earlier, and asking up to the end or the first error hands out just what these calls give. -/
theorem calls_reach_end (h : Reached text s) :
    (∀ n, (s.afterReads n).cursor.rest = text.drop (s.afterReads n).cursor.position) ∧
      (∀ n, s.RestsFrom text.length n ∨
        Onward text.length (s.afterReads n).cursor.position (s.reading n) (s.afterReads (n + 1)).cursor.position) ∧
      (∃ n, n ≤ text.length - s.cursor.position ∧ s.RestsFrom text.length n) ∧
      (Monotone fun n => place (s.reading n)) ∧
      (s.ended = true → s.HandsOut []) ∧
      (s.ended = false → ∃ n, (∀ m < n, closes (s.reading m) = false) ∧ closes (s.reading n) = true ∧
        s.HandsOut ((List.range (n + 1)).map s.reading)) := by
  refine ⟨fun n => (h.afterReads n).rest_eq, h.restsFrom_or_onward, h.exists_restsFrom, h.monotone_place, fun hended => ?_,
    h.exists_handsOut⟩
  obtain ⟨cursor, ended⟩ := s
  obtain rfl : ended = true := hended
  exact .ended cursor

/-- A text of errors: a lone mark, an escape without a code, a second point, and a regular expression without an end. -/
def faulty : List Char := ['&', '"', '\\', 'u', 'z', 'z', 'z', 'z', '.', '5', '.', '5', '/', 'a']

/-- After the lone mark the other three errors come and then the end, each with the call after the one before, while an iteration ends
with the first of them. -/
theorem calls_reach_end_faulty :
    let s := (TokenSource.ofText faulty).read.2
    Reached faulty s ∧ s.ended = false ∧ (List.range 5).map (fun n => place (s.reading n)) = [2, 8, 12, 14, 14] ∧
      (∃ n, n ≤ 13 ∧ s.RestsFrom 14 n) ∧ s.HandsOut [s.reading 0] := by
  intro s
  have hreached : Reached faulty s := .step .start .read
  have hended : s.ended = false := by decide +kernel
  have hposition : s.cursor.position = 1 := by decide +kernel
  have hplaces : (List.range 5).map (fun n => place (s.reading n)) = [2, 8, 12, 14, 14] := by decide +kernel
  have hfirst : closes (s.reading 0) = true := by decide +kernel
  obtain ⟨-, -, hrests, -, -, hiteration⟩ := calls_reach_end hreached
  rw [hposition] at hrests
  obtain ⟨n, hbefore, -, hitems⟩ := hiteration hended
  obtain rfl : n = 0 := by
    by_contra hn
    rw [hbefore 0 (Nat.pos_of_ne_zero hn)] at hfirst
    cases hfirst
  exact ⟨hreached, hended, hplaces, hrests, hitems⟩

end CellExpr
