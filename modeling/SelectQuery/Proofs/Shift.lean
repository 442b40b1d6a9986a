import SelectQuery.Proofs.Tiling

/-!
# Texts that stand further on

Where a text stands does not matter to its tokens, only to their spans: a scan that begins further
on finds the same tokens and the same fault, all moved by the distance (`scan_add`). A blank ends
whatever token stands before it, so a text with a blank in it is read in two parts, of which the
second is read as if it stood alone and is then moved behind the first (`tokenize_append_blank`).
-/

namespace SelectQuery

open Text

/-! ## Moving what a scan finds -/

/-- The span as many characters further on. -/
def Span.shift (distance : Nat) (span : Span) : Span :=
  ⟨span.start + distance, span.length⟩

/-- The token as many characters further on. -/
def Token.shift (distance : Nat) (t : Token) : Token :=
  { t with span := t.span.shift distance }

/-- The error as many characters further on. -/
def QueryError.shift (distance : Nat) (e : QueryError) : QueryError :=
  { e with span := e.span.shift distance }

/-- The fault as many characters further on. -/
def ScanFault.shift (distance : Nat) : ScanFault → ScanFault
  | .unexpectedChar c position => .unexpectedChar c (position + distance)
  | .unterminatedString position length => .unterminatedString (position + distance) length

/-- The tokens and the fault as many characters further on. -/
def Scan.shift (distance : Nat) (s : Scan) : Scan :=
  ⟨s.tokens.map (Token.shift distance), s.fault.map (ScanFault.shift distance)⟩

@[simp]
theorem ScanFault.error_shift (distance : Nat) (fault : ScanFault) :
    (fault.shift distance).error = fault.error.shift distance := by
  cases fault <;> rfl

@[simp]
theorem Token.shift_endOfInput (distance length : Nat) :
    (Token.endOfInput length).shift distance = Token.endOfInput (length + distance) :=
  rfl

/-- A scan that begins further on finds the same there. -/
theorem scan_add (position distance : Nat) (cs : List Char) :
    scan (position + distance) cs = (scan position cs).shift distance := by
  fun_induction scan position cs with
  | case1 position =>
    rw [scan]
    rfl
  | case2 position c rest found ih =>
    rw [scan, found]
    dsimp only
    rw [Nat.add_right_comm, ih]
  | case3 position c rest found =>
    rw [scan, found]
    rfl
  | case4 position c rest found =>
    rw [scan, found]
    rfl
  | case5 position c rest kind text extra found later ih =>
    rw [scan, found]
    dsimp only
    rw [Nat.add_right_comm, ih]
    rfl

/-! ## Blanks between texts -/

/-- A stretch may be followed by a blank. -/
theorem Tiles.beforeBlank {position : Nat} {cs after after' : List Char} {tokens : List Token}
    {c : Char} (tiled : Tiles position cs after tokens) (blank : isBlank c = true) :
    Tiles position cs (c :: after') tokens := by
  refine tiled.before fun t _ _ d first => ?_
  cases first
  exact goesOn_of_isBlank t.kind blank

/-- Behind a tiled stretch and a blank, a scan finds what it finds in the rest alone, as many
    characters further on. -/
theorem scan_append_blank {cs rest : List Char} {tokens : List Token} {c : Char}
    (tiled : Tiles 0 cs [] tokens) (blank : isBlank c = true) :
    scan 0 (cs ++ c :: rest) =
      ⟨tokens ++ (scan 0 rest).tokens.map (Token.shift (cs.length + 1)),
        (scan 0 rest).fault.map (ScanFault.shift (cs.length + 1))⟩ := by
  have later : scan (0 + cs.length) (c :: rest) = (scan 0 rest).shift (cs.length + 1) := by
    rw [scan_cons_of_isBlank blank, Nat.add_assoc, scan_add]
  rw [scan_append (tiled.beforeBlank blank), later]
  rfl

/-- What is left of a text after its front is read and a blank passed over is read as if it stood
    alone: its tokens follow those of the front, or its error is the error of the whole, and all
    that changes is where they stand. -/
theorem tokenize_append_blank (a b : String) (w : Char) (ta : List Token)
    (read : tokenize a = .ok ta) (blank : isBlank w = true) :
    ∃ front, ta = front ++ [Token.endOfInput a.length] ∧
      (∀ tb, tokenize b = .ok tb →
        tokenize (a ++ String.singleton w ++ b) =
          .ok (front ++ tb.map (Token.shift (a.length + 1)))) ∧
      (∀ e, tokenize b = .error e →
        tokenize (a ++ String.singleton w ++ b) = .error (e.shift (a.length + 1))) := by
  obtain ⟨front, tiled, rfl⟩ := tokenize_eq_ok_iff_tiles.mp read
  refine ⟨front, rfl, ?_⟩
  have text : (a ++ String.singleton w ++ b).toList = a.toList ++ w :: b.toList := by
    simp
  have length : (a ++ String.singleton w ++ b).length = b.length + (a.length + 1) := by
    simp only [String.length_append, String.length_singleton]
    omega
  have found : scan 0 (a.toList ++ w :: b.toList) = _ := scan_append_blank tiled blank
  rw [String.length_toList] at found
  simp only [tokenize, text, found, length]
  cases (scan 0 b.toList).fault with
  | none => simp
  | some fault => simp

/-- A number goes on behind a blank as another number, and a string that nothing closes is as long
    as it is alone. -/
theorem tokenize_append_blank_number :
    tokenize "a>1" = .ok ([⟨.identifier, "a", ⟨0, 1⟩⟩, ⟨.greaterThan, ">", ⟨1, 1⟩⟩,
      ⟨.number, "1", ⟨2, 1⟩⟩] ++ [Token.endOfInput 3]) ∧
    isBlank '\u3000' = true ∧
    tokenize ("a>1" ++ String.singleton '\u3000' ++ "2x") =
      .ok [⟨.identifier, "a", ⟨0, 1⟩⟩, ⟨.greaterThan, ">", ⟨1, 1⟩⟩, ⟨.number, "1", ⟨2, 1⟩⟩,
        ⟨.number, "2", ⟨4, 1⟩⟩, ⟨.identifier, "x", ⟨5, 1⟩⟩, Token.endOfInput 6] ∧
    tokenize ("a>1" ++ String.singleton '\u3000' ++ "2'x ") =
      .error ⟨.unterminatedString, ⟨5, 3⟩, none, none⟩ := by
  have scanned : scan 0 "a>1".toList = ⟨[⟨.identifier, "a", ⟨0, 1⟩⟩, ⟨.greaterThan, ">", ⟨1, 1⟩⟩,
      ⟨.number, "1", ⟨2, 1⟩⟩], none⟩ := by
    decide +kernel
  have read : tokenize "a>1" = .ok ([⟨.identifier, "a", ⟨0, 1⟩⟩, ⟨.greaterThan, ">", ⟨1, 1⟩⟩,
      ⟨.number, "1", ⟨2, 1⟩⟩] ++ [Token.endOfInput 3]) :=
    tokenize_of_scan scanned
  have blank : isBlank '\u3000' = true := by decide +kernel
  have scannedTwo : scan 0 "2x".toList =
      ⟨[⟨.number, "2", ⟨0, 1⟩⟩, ⟨.identifier, "x", ⟨1, 1⟩⟩], none⟩ := by
    decide +kernel
  have two : tokenize "2x" = .ok [⟨.number, "2", ⟨0, 1⟩⟩, ⟨.identifier, "x", ⟨1, 1⟩⟩,
      Token.endOfInput 2] :=
    tokenize_of_scan scannedTwo
  have scannedOpen : scan 0 "2'x ".toList =
      ⟨[⟨.number, "2", ⟨0, 1⟩⟩], some (.unterminatedString 1 3)⟩ := by
    decide +kernel
  have opened : tokenize "2'x " = .error ⟨.unterminatedString, ⟨1, 3⟩, none, none⟩ := by
    simp only [tokenize, scannedOpen]
    rfl
  obtain ⟨front, same, goes, -⟩ := tokenize_append_blank "a>1" "2x" '\u3000' _ read blank
  obtain ⟨-, -, -, fails⟩ := tokenize_append_blank "a>1" "2'x " '\u3000' _ read blank
  obtain rfl := List.append_cancel_right same
  exact ⟨read, blank, goes _ two, fails _ opened⟩

end SelectQuery
