import Mathlib.Data.List.Basic
import RapidLang.Proofs.Parser.Run

/-!
# Readers that do not look ahead

What a reader does is settled by the tokens it has passed and at most two more. `Reader.Alike`
states this for two readers at two cursors: as long as the tokens before the cursors agree, the
readers end alike. One rule for each way of putting readers together carries it from the parts to
the whole.
-/

set_option autoImplicit false

namespace RapidLang.Parser

open Reader

/-! ## Tokens before a cursor, by number -/

namespace Cursor

/-- The token that stands some places behind a cursor. -/
def token (cursor : Cursor) (place : Nat) : Token :=
  cursor.rest.getD place cursor.stop

variable {cursor later other later' : Cursor} {count bound : Nat}

theorem token_zero (cursor : Cursor) : cursor.token 0 = cursor.current := by
  cases remaining : cursor.rest <;> simp [token, current, remaining]

theorem Reaches.token (reaches : cursor.Reaches later) (place : Nat) :
    later.token place = cursor.token (cursor.left - later.left + place) := by
  have rest : later.rest = cursor.rest.drop (cursor.left - later.left) := by
    rw [left_eq, left_eq]
    exact List.suffix_iff_eq_drop.mp reaches.rest
  rw [Cursor.token, Cursor.token, rest, reaches.stop, List.getD_eq_getElem?_getD,
    List.getElem?_drop, ← List.getD_eq_getElem?_getD]

theorem token_one (inside : cursor.kind ≠ .endOfInput) : cursor.token 1 = cursor.advance.current := by
  have some := left_pos inside
  have passed : cursor.left - cursor.advance.left = 1 := by
    show cursor.left - (cursor.left - 1) = 1
    omega
  have behind := (Reaches.advance cursor).token 0
  rw [token_zero, passed] at behind
  exact behind.symm

/-- The first tokens behind two cursors are the same. -/
def Agree (bound : Nat) (cursor other : Cursor) : Prop :=
  ∀ place < bound, cursor.token place = other.token place

namespace Agree

theorem current (agree : Agree bound cursor other) (some : 0 < bound) :
    cursor.current = other.current := by
  rw [← token_zero, ← token_zero]
  exact agree 0 some

theorem mono (agree : Agree bound cursor other) {less : Nat} (below : less ≤ bound) :
    Agree less cursor other :=
  fun place near => agree place (Nat.lt_of_lt_of_le near below)

/-- Behind cursors that have passed as many tokens, fewer agree. -/
theorem move (agree : Agree (cursor.left - later.left + bound) cursor other)
    (reaches : cursor.Reaches later) (reaches' : other.Reaches later')
    (passed : cursor.left - later.left = other.left - later'.left) : Agree bound later later' := by
  intro place near
  rw [reaches.token, reaches'.token, ← passed]
  exact agree _ (Nat.add_lt_add_left near _)

end Agree

end Cursor

/-! ## Outcomes by what they say -/

open Cursor

variable {α β : Type} {cursor other behind behind' : Cursor}

namespace Outcome

/-- The value, or the cause of the error. -/
def verdict : Outcome α → Except Fault α
  | .ok (value, _) => .ok value
  | .error (error, _) => .error error.fault

/-- How many tokens are left behind a value, or from that of an error on. -/
def left : Outcome α → Nat
  | .ok (_, behind) => behind.left
  | .error (error, _) => error.left

/-- How many of the tokens behind a cursor settle an outcome: those that were passed, the next one,
and behind a failure one more. -/
def needs (cursor : Cursor) (outcome : Outcome α) : Nat :=
  cursor.left - outcome.left + match outcome with
    | .ok _ => 1
    | .error _ => 2

/-- The outcomes say the same, after as many tokens. -/
structure Same (cursor other : Cursor) (outcome outcome' : Outcome α) : Prop where
  verdict : outcome.verdict = outcome'.verdict
  passed : cursor.left - outcome.left = other.left - outcome'.left

theorem needs_pos (outcome : Outcome α) : 0 < outcome.needs cursor := by
  cases outcome <;> exact Nat.succ_pos _

theorem Follows.left_le {outcome : Outcome α} (follows : outcome.Follows cursor) :
    outcome.left ≤ cursor.left := by
  cases outcome with
  | ok result => exact Reaches.left_le follows
  | error failure =>
      obtain ⟨before, reaches, _, same⟩ := follows
      have left : failure.1.left = before.left := congrArg SyntaxError.left same
      exact Nat.le_trans (Nat.le_of_eq left) reaches.left_le

theorem needs_eq_add {outcome : Outcome α} (reaches : cursor.Reaches behind)
    (follows : outcome.Follows behind) :
    outcome.needs cursor = cursor.left - behind.left + outcome.needs behind := by
  have nearer := reaches.left_le
  have nearest := follows.left_le
  unfold needs
  omega

namespace Same

variable {outcome outcome' : Outcome α}

/-- Outcomes at cursors that have passed as many tokens. -/
theorem of_later (same : outcome.Same behind behind' outcome') (reaches : cursor.Reaches behind)
    (reaches' : other.Reaches behind') (follows : outcome.Follows behind)
    (follows' : outcome'.Follows behind')
    (passed : cursor.left - behind.left = other.left - behind'.left) :
    outcome.Same cursor other outcome' := by
  refine ⟨same.verdict, ?_⟩
  have near := reaches.left_le
  have near' := reaches'.left_le
  have nearer := follows.left_le
  have nearer' := follows'.left_le
  have passed' := same.passed
  omega

theorem ok {value : α} {last : Cursor}
    (same : Outcome.Same cursor other (.ok (value, last)) outcome') :
    ∃ last', outcome' = .ok (value, last') ∧
      cursor.left - last.left = other.left - last'.left := by
  obtain ⟨verdict, passed⟩ := same
  cases outcome' with
  | error failure => cases verdict
  | ok result =>
      cases verdict
      exact ⟨result.2, rfl, passed⟩

theorem error {error : SyntaxError} {last : Cursor}
    (same : Outcome.Same cursor other (.error (error, last) : Outcome α) outcome') :
    ∃ error' last', outcome' = .error (error', last') ∧ error'.fault = error.fault ∧
      cursor.left - error.left = other.left - error'.left := by
  obtain ⟨verdict, passed⟩ := same
  cases outcome' with
  | error failure => exact ⟨failure.1, failure.2, rfl, (Except.error.inj verdict).symm, passed⟩
  | ok result => cases verdict

/-- What an error says does not depend on the values that were wanted. -/
theorem failed {error : SyntaxError} {last : Cursor}
    (same : Outcome.Same cursor other (.error (error, last) : Outcome α) outcome') :
    ∃ failure, outcome' = .error failure ∧
      ∀ β : Type, Outcome.Same cursor other (.error (error, last) : Outcome β) (.error failure) := by
  obtain ⟨error', last', outcome', fault, passed⟩ := same.error
  exact ⟨(error', last'), outcome', fun _ => ⟨congrArg Except.error fault.symm, passed⟩⟩

/-- Errors at the next tokens, wherever the readers have gone meanwhile. -/
theorem offence {fault : Fault} :
    Outcome.Same cursor other (.error (cursor.offence fault, behind) : Outcome α)
      (.error (other.offence fault, behind')) :=
  ⟨rfl, (Nat.sub_self cursor.left).trans (Nat.sub_self other.left).symm⟩

end Same

end Outcome

/-! ## Readers that do alike -/

/-- At two cursors the readers do alike: where the tokens agree that settle the outcome of the first
reader, the second one has the same outcome. -/
def Reader.Alike (reader reader' : Reader α) (cursor other : Cursor) : Prop :=
  Agree ((reader.run cursor).needs cursor) cursor other →
    (reader.run cursor).Same cursor other (reader'.run other)

/-- The readers do alike where fewer tokens are left than two bounds. -/
def Reader.AlikeBelow (size size' : Nat) (reader reader' : Reader α) : Prop :=
  ∀ cursor other : Cursor, cursor.left < size → other.left < size' →
    reader.Alike reader' cursor other

namespace Reader.Alike

/-- The next token may be taken to agree. -/
theorem of_same {reader reader' : Reader α}
    (alike : cursor.current = other.current → reader.Alike reader' cursor other) :
    reader.Alike reader' cursor other :=
  fun agree => alike (agree.current (Outcome.needs_pos _)) agree

/-- Readers of which the first takes a token or fails may look at the token after the next one. -/
theorem of_following {reader reader' : Reader α}
    (moves : ∀ value behind, reader.run cursor = .ok (value, behind) → behind.left < cursor.left)
    (alike : cursor.current = other.current → cursor.token 1 = other.token 1 →
      reader.Alike reader' cursor other) :
    reader.Alike reader' cursor other := by
  intro agree
  have two : 2 ≤ (reader.run cursor).needs cursor := by
    cases outcome : reader.run cursor with
    | error failure => exact Nat.le_add_left _ _
    | ok result =>
        have := moves result.1 result.2 outcome
        simp only [Outcome.needs, Outcome.left]
        omega
  exact alike (agree.current (Outcome.needs_pos _)) (agree 1 two) agree

theorem congr {reader reader' first first' : Reader α}
    (same : reader.run cursor = first.run cursor) (same' : reader'.run other = first'.run other)
    (alike : first.Alike first' cursor other) : reader.Alike reader' cursor other := by
  unfold Reader.Alike
  rwa [same, same']

theorem pure {value : α} : (pure value : Reader α).Alike (pure value) cursor other :=
  fun _ => ⟨rfl, (Nat.sub_self cursor.left).trans (Nat.sub_self other.left).symm⟩

theorem fail {fault : Fault} : (fail fault : Reader α).Alike (Parser.fail fault) cursor other :=
  fun _ => .offence

/-- The second readers start where the first ones have ended, the same number of tokens on. -/
theorem bind_run {reader reader' : Reader β} {next next' : β → Reader α}
    (first : reader.Alike reader' cursor other)
    (onward : ∀ value behind behind', reader.run cursor = .ok (value, behind) →
      reader'.run other = .ok (value, behind') → (next value).Alike (next' value) behind behind') :
    (reader >>= next).Alike (reader' >>= next') cursor other := by
  unfold Reader.Alike at first ⊢
  cases outcome : reader.run cursor with
  | error failure =>
      rw [run_bind_of_error outcome]
      rw [outcome] at first
      intro agree
      obtain ⟨failure', outcome', same⟩ := (first agree).failed
      rw [run_bind_of_error outcome']
      exact same α
  | ok result =>
      obtain ⟨value, behind⟩ := result
      rw [run_bind_of_ok outcome]
      rw [outcome] at first
      have reaches := reaches_of_ok outcome
      have follows := (next value).forward behind
      rw [Outcome.needs_eq_add reaches follows]
      intro agree
      obtain ⟨behind', outcome', passed⟩ :=
        (first (agree.mono (Nat.add_le_add_left (Outcome.needs_pos _) _))).ok
      have reaches' := reaches_of_ok outcome'
      rw [run_bind_of_ok outcome']
      exact (onward value behind behind' outcome outcome' (agree.move reaches reaches' passed)).of_later
        reaches reaches' follows ((next' value).forward behind') passed

theorem bind {reader reader' : Reader β} {next next' : β → Reader α}
    (first : reader.Alike reader' cursor other)
    (onward : ∀ value behind behind', behind.left ≤ cursor.left → behind'.left ≤ other.left →
      (next value).Alike (next' value) behind behind') :
    (reader >>= next).Alike (reader' >>= next') cursor other :=
  bind_run first fun value behind behind' outcome outcome' =>
    onward value behind behind' (reaches_of_ok outcome).left_le (reaches_of_ok outcome').left_le

/-- Where one token at most is taken, a failure at it is settled with what follows it. -/
theorem require {fault : Fault} {reader reader' : Reader (Option α)}
    (alike : reader.Alike reader' cursor other)
    (near : ∀ behind, reader.run cursor = .ok (none, behind) → cursor.left ≤ behind.left + 1) :
    (Reader.require fault reader).Alike (Reader.require fault reader') cursor other := by
  intro agree
  unfold Reader.Alike at alike
  cases outcome : reader.run cursor with
  | error failure =>
      rw [run_require_of_error outcome] at agree ⊢
      rw [outcome] at alike
      obtain ⟨failure', outcome', same⟩ := (alike agree).failed
      rw [run_require_of_error outcome']
      exact same α
  | ok result =>
      obtain ⟨found, behind⟩ := result
      rw [outcome] at alike
      cases found with
      | some value =>
          rw [run_require_of_some outcome] at agree ⊢
          obtain ⟨behind', outcome', passed⟩ := (alike agree).ok
          rw [run_require_of_some outcome']
          exact ⟨rfl, passed⟩
      | none =>
          rw [run_require_of_none outcome] at agree ⊢
          have two : Outcome.needs cursor (.ok (none, behind) : Outcome (Option α)) ≤ 2 := by
            have := near behind outcome
            simp only [Outcome.needs, Outcome.left]
            omega
          obtain ⟨behind', outcome', _⟩ :=
            (alike (agree.mono (Nat.le_trans two (Nat.le_add_left _ _)))).ok
          rw [run_require_of_none outcome']
          exact .offence

theorem peek_bind {next next' : Token → Reader α}
    (onward : (next cursor.current).Alike (next' cursor.current) cursor other) :
    (peek >>= next).Alike (peek >>= next') cursor other :=
  of_same fun same => congr rfl (congrArg (fun token => (next' token).run other) same).symm onward

theorem peekKind_bind {next next' : TokenKind → Reader α}
    (onward : other.kind = cursor.kind →
      (next cursor.kind).Alike (next' cursor.kind) cursor other) :
    (peekKind >>= next).Alike (peekKind >>= next') cursor other := by
  refine of_same fun same => ?_
  have kinds : other.kind = cursor.kind := congrArg Token.kind same.symm
  have second : (peekKind >>= next').run other = (next' cursor.kind).run other := by
    rw [← kinds]
    rfl
  exact congr rfl second (onward kinds)

theorem take : take.Alike Parser.take cursor other := by
  refine of_same fun same _ => ?_
  have kinds : other.kind = cursor.kind := congrArg Token.kind same.symm
  refine ⟨congrArg Except.ok same, ?_⟩
  show cursor.left - (cursor.left - 1) = other.left - (other.left - 1)
  by_cases finished : cursor.kind = .endOfInput
  · rw [left_eq_zero finished, left_eq_zero (kinds.trans finished)]
  · have some := left_pos finished
    have some' := left_pos (kinds ▸ finished)
    omega

/-- Behind a token that both take, fewer are left than before it. -/
theorem take_bind {next next' : Token → Reader α} (inside : cursor.kind ≠ .endOfInput)
    (onward : ∀ behind behind', behind.left < cursor.left → behind'.left < other.left →
      (next cursor.current).Alike (next' cursor.current) behind behind') :
    (Parser.take >>= next).Alike (Parser.take >>= next') cursor other := by
  refine of_same fun same => ?_
  have kinds : other.kind = cursor.kind := congrArg Token.kind same.symm
  refine bind_run take fun value behind behind' outcome outcome' => ?_
  rw [run_take, Except.ok.injEq, Prod.mk.injEq] at outcome outcome'
  obtain ⟨rfl, rfl⟩ := outcome
  obtain ⟨-, rfl⟩ := outcome'
  have some := left_pos inside
  have some' := left_pos (kinds ▸ inside)
  exact onward _ _ (Nat.sub_lt some Nat.one_pos) (Nat.sub_lt some' Nat.one_pos)

theorem takeAs {fault : Fault} {meaning? : Token → Option α} :
    (takeAs fault meaning?).Alike (Parser.takeAs fault meaning?) cursor other := by
  refine require (bind take fun _ _ _ _ _ => pure) fun behind outcome => ?_
  rw [run_bind_of_ok run_take, run_pure, Except.ok.injEq, Prod.mk.injEq] at outcome
  rw [← outcome.2]
  show cursor.left ≤ cursor.left - 1 + 1
  omega

theorem accept {kind : TokenKind} : (accept kind).Alike (Parser.accept kind) cursor other := by
  unfold Parser.accept
  refine peekKind_bind fun _ => ?_
  split
  · exact bind take fun _ _ _ _ _ => pure
  · exact pure

theorem expect {kind : TokenKind} : (expect kind).Alike (Parser.expect kind) cursor other := by
  unfold Parser.expect
  refine peekKind_bind fun _ => ?_
  split
  · exact take
  · exact fail

theorem expectName {role : NameRole} :
    (expectName role).Alike (Parser.expectName role) cursor other := by
  unfold Parser.expectName
  refine peekKind_bind fun _ => ?_
  split
  · exact bind take fun _ _ _ _ _ => pure
  · exact fail

theorem accept_bind {kind : TokenKind} {next next' : Bool → Reader α} (inside : kind ≠ .endOfInput)
    (present : ∀ behind behind', behind.left < cursor.left → behind'.left < other.left →
      (next true).Alike (next' true) behind behind')
    (absent : (next false).Alike (next' false) cursor other) :
    (Parser.accept kind >>= next).Alike (Parser.accept kind >>= next') cursor other := by
  refine of_same fun same => ?_
  have kinds : other.kind = cursor.kind := congrArg Token.kind same.symm
  by_cases here : cursor.kind = kind
  · have taken : (Parser.take >>= fun _ => next true).Alike (Parser.take >>= fun _ => next' true)
        cursor other := take_bind (here ▸ inside) present
    have first : (Parser.accept kind >>= next).run cursor =
        (Parser.take >>= fun _ => next true).run cursor := run_bind_of_ok (run_accept_of_eq here)
    have second : (Parser.accept kind >>= next').run other =
        (Parser.take >>= fun _ => next' true).run other :=
      run_bind_of_ok (run_accept_of_eq (kinds.trans here))
    exact congr first second taken
  · exact congr (run_bind_of_ok (run_accept_of_ne here))
      (run_bind_of_ok (run_accept_of_ne (kinds ▸ here))) absent

theorem optionalAfter {kind : TokenKind} {item item' : Reader α} (inside : kind ≠ .endOfInput)
    (alike : ∀ behind behind', behind.left < cursor.left → behind'.left < other.left →
      item.Alike item' behind behind') :
    (optionalAfter kind item).Alike (Parser.optionalAfter kind item') cursor other := by
  unfold Parser.optionalAfter
  refine accept_bind inside (fun behind behind' near near' => ?_) pure
  exact bind (alike behind behind' near near') fun _ _ _ _ _ => pure

/-! ### Repetition -/

theorem steps {continues : TokenKind → Bool} {step step' : α → Reader α}
    (alike : ∀ value behind behind', behind.left ≤ cursor.left → behind'.left ≤ other.left →
      continues behind.kind → (step value).Alike (step' value) behind behind') (value : α) :
    (Reader.steps continues step value).Alike (Reader.steps continues step' value) cursor
      other := by
  -- The induction is on the tokens left, over every state that the repetition passes through.
  have passing : ∀ count value here here', here.left = count → here.left ≤ cursor.left →
      here'.left ≤ other.left →
      (Reader.steps continues step value).Alike (Reader.steps continues step' value) here
        here' := by
    intro count
    induction count using Nat.strongRecOn with
    | ind count ih =>
        intro value here here' size near near'
        refine of_same fun same => ?_
        have kinds : here'.kind = here.kind := congrArg Token.kind same.symm
        by_cases admitted : continues here.kind
        · have admitted' : continues here'.kind := by rwa [kinds]
          have once := alike value here here' near near' admitted
          unfold Reader.Alike at once ⊢
          cases outcome : (step value).run here with
          | error failure =>
              rw [run_steps_of_error admitted outcome]
              rw [outcome] at once
              intro agree
              obtain ⟨failure', outcome', same⟩ := (once agree).failed
              rw [run_steps_of_error admitted' outcome']
              exact same α
          | ok result =>
              obtain ⟨next, behind⟩ := result
              rw [outcome] at once
              have reaches := reaches_of_ok outcome
              by_cases shorter : behind.left < here.left
              · have follows := (Reader.steps continues step next).forward behind
                rw [run_steps_of_ok admitted outcome shorter, Outcome.needs_eq_add reaches follows]
                intro agree
                obtain ⟨behind', outcome', passed⟩ :=
                  (once (agree.mono (Nat.add_le_add_left (Outcome.needs_pos _) _))).ok
                have reaches' := reaches_of_ok outcome'
                have shorter' : behind'.left < here'.left := by omega
                have onward := ih behind.left (size ▸ shorter) next behind behind' rfl
                  (Nat.le_trans (Nat.le_of_lt shorter) near)
                  (Nat.le_trans (Nat.le_of_lt shorter') near')
                rw [run_steps_of_ok admitted' outcome' shorter']
                exact (onward (agree.move reaches reaches' passed)).of_later reaches reaches' follows
                  ((Reader.steps continues step' next).forward behind') passed
              · rw [run_steps_of_last admitted outcome shorter]
                intro agree
                obtain ⟨behind', outcome', passed⟩ := (once agree).ok
                have last' : ¬behind'.left < here'.left := by omega
                rw [run_steps_of_last admitted' outcome' last']
                exact ⟨rfl, passed⟩
        · have stop : continues here.kind = false := by simpa using admitted
          exact congr (run_steps_of_stop stop) (run_steps_of_stop (kinds ▸ stop)) pure
  exact passing cursor.left value cursor other rfl (Nat.le_refl _) (Nat.le_refl _)

theorem repeatWhile {continues : TokenKind → Bool} {item item' : Reader α}
    (alike : ∀ behind behind', behind.left ≤ cursor.left → behind'.left ≤ other.left →
      continues behind.kind → item.Alike item' behind behind') :
    (repeatWhile continues item).Alike (Parser.repeatWhile continues item') cursor other := by
  unfold Parser.repeatWhile collect
  refine bind (steps (fun items behind behind' near near' admitted => ?_) []) fun _ _ _ _ _ => pure
  exact bind (alike behind behind' near near' admitted) fun _ _ _ _ _ => pure

theorem commaSeparated {item item' : Reader α}
    (alike : ∀ behind behind', behind.left ≤ cursor.left → behind'.left ≤ other.left →
      item.Alike item' behind behind') :
    (commaSeparated item).Alike (Parser.commaSeparated item') cursor other := by
  unfold Parser.commaSeparated
  refine bind (alike cursor other (Nat.le_refl _) (Nat.le_refl _)) fun _ here here' near near' => ?_
  refine bind (repeatWhile fun behind behind' nearer nearer' comma => ?_) fun _ _ _ _ _ => pure
  refine take_bind ?_ fun last last' less less' => alike last last' (by omega) (by omega)
  rw [beq_iff_eq.mp comma]
  decide

theorem knot {fault : Fault} {step : Reader α → Reader α}
    (kept : ∀ size size' reader reader', AlikeBelow size size' reader reader' →
      AlikeBelow (size + 1) (size' + 1) (step reader) (step reader')) :
    (Reader.knot fault step).Alike (Reader.knot fault step) cursor other := by
  have unrolled : ∀ depth depth', AlikeBelow depth depth' (Reader.unroll fault step depth)
      (Reader.unroll fault step depth') := by
    intro depth
    induction depth with
    | zero => exact fun _ _ _ near _ => absurd near (Nat.not_lt_zero _)
    | succ depth ih =>
        intro depth'
        cases depth' with
        | zero => exact fun _ _ _ near => absurd near (Nat.not_lt_zero _)
        | succ depth' => exact kept depth depth' _ _ (ih depth')
  exact unrolled _ _ cursor other (Nat.lt_succ_self _) (Nat.lt_succ_self _)

end Reader.Alike

end RapidLang.Parser
