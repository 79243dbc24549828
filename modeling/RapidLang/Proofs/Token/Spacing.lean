import Mathlib.Data.List.Forall2
import RapidLang.Proofs.Token.Coverage

/-!
# Spacing between tokens

Each piece of a text is cut alike when it stands alone, and blanks and closed comments end every
piece before them and take in nothing behind them. So the tokens of a text may be written with any
spacing between them.
-/

set_option autoImplicit false

namespace RapidLang

open Text

/-! ## Texts with spacing -/

/-- What may stand between tokens: blank characters and comments that a line feed closes. -/
inductive Spacing : List Char → Prop where
  | blank {c : Char} : isBlank c → Spacing [c]
  | comment {body : List Char} : '\n' ∉ body → Spacing ('!' :: (body ++ ['\n']))
  | append {first second : List Char} : Spacing first → Spacing second → Spacing (first ++ second)

/-- The text has the given parts in their order, with spacing between any two of them; there may
also be spacing before the first and behind the last one. -/
inductive Spaced : List (List Char) → List Char → Prop where
  | nil : Spaced [] []
  | single (part : List Char) : Spaced [part] part
  | cons {part gap next text : List Char} {rest : List (List Char)} :
      Spacing gap → Spaced (next :: rest) text → Spaced (part :: next :: rest) (part ++ gap ++ text)
  | before {gap text : List Char} {parts : List (List Char)} :
      Spacing gap → Spaced parts text → Spaced parts (gap ++ text)
  | behind {gap text : List Char} {parts : List (List Char)} :
      Spacing gap → Spaced parts text → Spaced parts (text ++ gap)

/-! ## Pieces that stand alone -/

namespace Shape

variable {shape extended : Shape} {c : Char} {ahead other : Option Char}

/-- A number takes in a point only before a digit. -/
theorem isDigit_of_point (grown : shape.extend? '.' ahead = some .decimal) :
    ahead.any Char.isDigit := by
  cases shape with
  | integer => simpa [extend?] using grown
  | mark kind => cases kind <;> simp [extend?] at grown
  | _ => simp [extend?] at grown

/-- A piece takes in a character whatever comes next, unless it is the point of a number. -/
theorem extend?_of_grown (grown : shape.extend? c ahead = some extended)
    (digit : c = '.' → extended = .decimal → other.any Char.isDigit) :
    shape.extend? c other = some extended := by
  by_cases point : c = '.' ∧ extended = .decimal
  · obtain ⟨rfl, rfl⟩ := point
    rw [← grown]
    exact extend?_congr fun _ => (digit rfl rfl).trans (isDigit_of_point grown).symm
  · cases shape with
    | integer =>
        by_cases dot : c = '.'
        · subst dot
          simp only [extend?] at grown
          split at grown
          next digit => cases digit
          split at grown <;> cases grown
          exact absurd ⟨rfl, rfl⟩ point
        · rw [← grown]
          exact extend?_congr fun same => absurd same dot
    | mark kind => cases kind <;> exact grown
    | _ => exact grown

end Shape

theorem Shape.start_ne_decimal (c : Char) : Shape.start c ≠ .decimal := by
  unfold Shape.start
  repeat' split
  all_goals exact Shape.noConfusion

namespace Piece

variable {shape : Shape} {reversed rest : List Char} {piece : Piece}

/-- In a number, a point is followed by a digit. -/
def PointBefore (shape : Shape) (reversed rest : List Char) : Prop :=
  shape = .decimal → reversed.head? = some '.' → rest.head?.any Char.isDigit

/-- The characters read so far would have been read in the same way with anything behind them. -/
def ReadAlone (shape : Shape) (reversed : List Char) : Prop :=
  ∀ behind, PointBefore shape reversed behind →
    cut (reversed.reverse ++ behind) = cutFrom shape reversed behind

theorem readAlone_start (c : Char) : ReadAlone (Shape.start c) [c] :=
  fun _ _ => rfl

theorem ReadAlone.grow {extended : Shape} {c : Char} (alone : ReadAlone shape reversed)
    (grown : shape.extend? c rest.head? = some extended)
    (point : PointBefore shape reversed (c :: rest)) : ReadAlone extended (c :: reversed) := by
  intro behind point'
  have grown' : shape.extend? c behind.head? = some extended :=
    Shape.extend?_of_grown grown fun dot decimal => point' decimal (congrArg some dot)
  rw [List.reverse_cons, List.append_assoc]
  refine (alone (c :: behind) point).trans ?_
  rw [cutFrom, grown']

theorem ReadAlone.cut_eq (alone : ReadAlone shape reversed)
    (point : PointBefore shape reversed []) :
    cut reversed.reverse = [⟨shape, reversed.reverse⟩] := by
  have read := alone [] point
  rwa [List.append_nil] at read

theorem cut_text_of_mem_cutFrom (alone : ReadAlone shape reversed)
    (point : PointBefore shape reversed rest) (member : piece ∈ cutFrom shape reversed rest) :
    cut piece.text = [piece] := by
  induction rest generalizing shape reversed with
  | nil =>
      rw [cutFrom, List.mem_singleton] at member
      rw [member]
      exact alone.cut_eq point
  | cons c rest ih =>
      rw [cutFrom] at member
      split at member
      next extended grown =>
        refine ih (alone.grow grown point) ?_ member
        rintro rfl dot
        cases dot
        exact Shape.isDigit_of_point grown
      next ended =>
        rcases List.mem_cons.mp member with rfl | member
        · refine alone.cut_eq fun decimal dot => ?_
          have digit : c.isDigit := point decimal dot
          rw [decimal, Shape.extend?, if_pos digit] at ended
          cases ended
        · exact ih (readAlone_start c)
            (fun decimal _ => absurd decimal (Shape.start_ne_decimal c)) member

/-- A piece of a text is cut alike when it stands alone. -/
theorem cut_text_of_mem_cut {text : List Char} (member : piece ∈ cut text) :
    cut piece.text = [piece] := by
  cases text with
  | nil => cases member
  | cons c rest =>
      exact cut_text_of_mem_cutFrom (readAlone_start c)
        (fun decimal _ => absurd decimal (Shape.start_ne_decimal c)) member

end Piece

/-! ## Texts with comments -/

/-- The text has the lexemes and nothing is to be reported about it. It may have comments, but no
comment at its end that something behind it would belong to. -/
structure Delivers (text : List Char) (lexemes : List Lexeme) : Prop where
  clean : ∀ piece ∈ Piece.cut text, piece.shape ≠ .unknown ∧ piece.shape ≠ .openString
  closed : ∀ last ∈ (Piece.cut text).getLast?, last.shape ≠ .comment
  read : (Piece.cut text).filterMap Piece.lexeme? = lexemes

namespace Delivers

variable {first second text : List Char} {lexemes more : List Lexeme}

theorem nil : Delivers [] [] where
  clean _ member := absurd member List.not_mem_nil
  closed _ member := nomatch member
  read := rfl

/-- What a single piece delivers. -/
theorem of_piece {piece : Piece} (alone : Piece.cut text = [piece]) (tidy : piece.shape.isTidy) :
    Delivers text piece.lexeme?.toList := by
  have apart : piece.shape ≠ .comment ∧ piece.shape ≠ .openString ∧ piece.shape ≠ .unknown := by
    refine ⟨?_, ?_, ?_⟩
    all_goals
      intro shape
      rw [shape] at tidy
      cases tidy
  refine ⟨?_, ?_, ?_⟩
  · rw [alone, List.forall_mem_singleton]
    exact ⟨apart.2.2, apart.2.1⟩
  · intro last member
    rw [alone, List.getLast?_singleton] at member
    cases member
    exact apart.1
  · rw [alone]
    cases found : piece.lexeme? with
    | none => simp [found]
    | some lexeme => simp [found]

theorem tidy (delivers : Delivers text lexemes) :
    ∀ last ∈ (Piece.cut text).getLast?, last.shape.isTidy := by
  intro last member
  obtain ⟨known, complete⟩ := delivers.clean last (List.mem_of_getLast? member)
  have closed := delivers.closed last member
  unfold Shape.isTidy
  split <;> trivial

theorem append (before : Delivers first lexemes) (behind : Delivers second more)
    (apart : isSealed first ∨ startsFresh second) :
    Delivers (first ++ second) (lexemes ++ more) := by
  have cut := Piece.cut_append_of_apart before.tidy apart
  refine ⟨?_, ?_, ?_⟩
  · rw [cut, List.forall_mem_append]
    exact ⟨before.clean, behind.clean⟩
  · intro last member
    rw [cut, List.getLast?_append] at member
    rcases Option.or_eq_some_iff.mp member with member | ⟨_, member⟩
    · exact behind.closed last member
    · exact before.closed last member
  · rw [cut, List.filterMap_append, before.read, behind.read]

end Delivers

namespace Spacing

variable {gap : List Char}

theorem ne_nil (spacing : Spacing gap) : gap ≠ [] := by
  induction spacing with
  | blank | comment => exact List.cons_ne_nil _ _
  | append _ _ ih _ => exact List.append_ne_nil_of_left_ne_nil ih _

/-- Spacing ends every token before it. -/
theorem startsFresh (spacing : Spacing gap) : startsFresh gap := by
  induction spacing with
  | @blank c blank =>
      simp only [isBlank, Bool.or_eq_true, beq_iff_eq] at blank
      rcases blank with ((rfl | rfl) | rfl) | rfl <;> decide
  | comment => exact show isFresh '!' by decide
  | @append first second before _ ih _ =>
      obtain ⟨c, rest, rfl⟩ := List.exists_cons_of_ne_nil before.ne_nil
      exact ih

/-- Spacing delivers nothing, and it is complete. -/
theorem delivers (spacing : Spacing gap) : Delivers gap [] ∧ isSealed gap := by
  induction spacing with
  | @blank c blank =>
      have alone : Piece.cut [c] = [⟨.blank, [c]⟩] := by
        rw [Piece.cut, Shape.start, if_pos blank]
        rfl
      have point : c ≠ '.' := by
        rintro rfl
        cases blank
      refine ⟨Delivers.of_piece alone rfl, ?_⟩
      simp [isSealed, alone, Shape.isSealed, point]
  | @comment body plain =>
      have grows : ∀ c ∈ body, ∀ ahead, Shape.comment.extend? c ahead = some .comment := by
        intro c member ahead
        exact if_neg (ne_of_mem_of_not_mem member plain)
      have note : Piece.cut ('!' :: body) = [⟨.comment, '!' :: body⟩] := by
        have read := Piece.cutFrom_of_grows grows ['!'] []
        rw [List.append_nil] at read
        rw [Piece.cut, show Shape.start '!' = .comment by decide, read]
        simp [Piece.cutFrom]
      have cut : Piece.cut ('!' :: (body ++ ['\n'])) =
          [⟨.comment, '!' :: body⟩, ⟨.blank, ['\n']⟩] := by
        rw [← List.cons_append, Piece.cut_append_newline, note]
        rfl
      refine ⟨⟨?_, ?_, ?_⟩, isSealed_newline ('!' :: body)⟩
      · simp [cut]
      · simp [cut]
      · rw [cut]
        rfl
  | append _ behind ih ih' =>
      exact ⟨ih.1.append ih'.1 (.inl ih.2),
        Piece.isSealed_append ih.1.tidy (.inl ih.2) behind.ne_nil ih'.2⟩

end Spacing

/-! ## Tokens and what they deliver -/

/-- Parts that deliver their lexemes one by one deliver them all, with any spacing between them. -/
theorem Spaced.delivers {parts : List (List Char)} {text : List Char} {lexemes : List Lexeme}
    (spaced : Spaced parts text)
    (each : List.Forall₂ (fun part lexeme => Delivers part [lexeme]) parts lexemes) :
    Delivers text lexemes := by
  induction spaced generalizing lexemes with
  | nil =>
      cases each
      exact Delivers.nil
  | single =>
      obtain _ | ⟨first, _ | _⟩ := each
      exact first
  | cons spacing _ ih =>
      obtain _ | ⟨first, rest⟩ := each
      obtain ⟨nothing, complete⟩ := spacing.delivers
      have front := first.append nothing (.inr spacing.startsFresh)
      have ends := Piece.isSealed_append first.tidy (.inr spacing.startsFresh) spacing.ne_nil complete
      exact front.append (ih rest) (.inl ends)
  | before spacing _ ih =>
      exact spacing.delivers.1.append (ih each) (.inl spacing.delivers.2)
  | behind spacing _ ih =>
      have read := (ih each).append spacing.delivers.1 (.inr spacing.startsFresh)
      rwa [List.append_nil] at read

namespace Lexed

/-- The characters of a token deliver the token again, if there are no reports. -/
theorem delivers_of_mem_words {source : String} {token : Token}
    (clean : (ofString source).diagnostics = []) (member : token ∈ (ofString source).words) :
    Delivers ((Document.ofString source).textAt token.span).toList [token.lexeme] := by
  rw [ofString, words_ofChars] at member
  obtain ⟨placed, member, found⟩ := List.mem_filterMap.mp member
  have piece := PlacedPiece.piece_mem_cut member
  have silent := (diagnostics_eq_nil_iff source).mp clean placed.piece piece
  have lexeme : placed.piece.lexeme? = some token.lexeme := by
    obtain ⟨pair, read, rfl⟩ := Option.map_eq_some_iff.mp found
    rw [Piece.lexeme?, read]
    rfl
  have tidy : placed.piece.shape.isTidy := by
    unfold Shape.isTidy
    split
    next comment => simp [Piece.lexeme?, Piece.token?, comment] at lexeme
    next open_ => exact absurd open_ silent.2
    next unknown => exact absurd unknown silent.1
    next => rfl
  have text : (Document.ofString source).textAt token.span = String.ofList placed.piece.text := by
    rw [PlacedPiece.span_of_token? found]
    exact congrArg String.ofList (PlacedPiece.slice member)
  rw [text, String.toList_ofList]
  have read := Delivers.of_piece (Piece.cut_text_of_mem_cut piece) tidy
  rwa [lexeme] at read

/-- The tokens of a text without reports may be written with any spacing between them: this text
has no reports either and the same kinds and texts of tokens. -/
theorem respaced (source other : String) (clean : (ofString source).diagnostics = [])
    (spaced : Spaced
      ((ofString source).words.map fun token =>
        ((Document.ofString source).textAt token.span).toList) other.toList) :
    (ofString other).diagnostics = [] ∧
      (ofString other).tokens.map Token.lexeme = (ofString source).tokens.map Token.lexeme := by
  have each : List.Forall₂ (fun part lexeme => Delivers part [lexeme])
      ((ofString source).words.map fun token =>
        ((Document.ofString source).textAt token.span).toList)
      ((ofString source).words.map Token.lexeme) := by
    rw [List.forall₂_map_left_iff, List.forall₂_map_right_iff, List.forall₂_same]
    exact fun token member => delivers_of_mem_words clean member
  have delivers := spaced.delivers each
  refine ⟨(diagnostics_eq_nil_iff other).mpr delivers.clean, ?_⟩
  rw [map_lexeme_tokens, delivers.read, ofString, tokens_ofChars, List.map_append]
  rfl

/-- A dotted word, a number before a dot, operators of two characters and a string, close together
where they can be. -/
def crowdedText : String :=
  "p.x:=1.<>\"a! b\";!n"

/-- The same tokens with blanks and comments between them. -/
def airyText : String :=
  "p.x\t:=!1.5\n1 .\n<>\r!\n\"a! b\" ;"

theorem respaced_crowdedText :
    (ofString crowdedText).diagnostics = [] ∧
      Spaced ((ofString crowdedText).words.map fun token =>
        ((Document.ofString crowdedText).textAt token.span).toList) airyText.toList ∧
      (ofString airyText).diagnostics = [] ∧
      (ofString airyText).tokens.map Token.lexeme =
        (ofString crowdedText).tokens.map Token.lexeme := by
  have clean : (ofString crowdedText).diagnostics = [] := by decide +kernel
  have parts : (ofString crowdedText).words.map (fun token =>
      ((Document.ofString crowdedText).textAt token.span).toList) =
      ["p.x".toList, ":=".toList, "1".toList, ".".toList, "<>".toList, "\"a! b\"".toList,
        ";".toList] := by
    decide +kernel
  have text : airyText.toList =
      "p.x".toList ++ ['\t'] ++ (":=".toList ++ ('!' :: ("1.5".toList ++ ['\n'])) ++
        ("1".toList ++ [' '] ++ (".".toList ++ ['\n'] ++
          ("<>".toList ++ (['\r'] ++ '!' :: ([] ++ ['\n'])) ++
            ("\"a! b\"".toList ++ [' '] ++ ";".toList))))) := by
    decide +kernel
  have note : Spacing ('!' :: ("1.5".toList ++ ['\n'])) := .comment (by decide)
  have feed : Spacing (['\r'] ++ '!' :: ([] ++ ['\n'])) :=
    .append (.blank rfl) (.comment List.not_mem_nil)
  have spaced : Spaced ((ofString crowdedText).words.map fun token =>
      ((Document.ofString crowdedText).textAt token.span).toList) airyText.toList := by
    rw [parts, text]
    exact .cons (.blank rfl) (.cons note (.cons (.blank rfl) (.cons (.blank rfl)
      (.cons feed (.cons (.blank rfl) (.single _))))))
  exact ⟨clean, spaced, respaced crowdedText airyText clean spaced⟩

end Lexed

end RapidLang
