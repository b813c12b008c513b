import Entitlement.Text.Quoted

/-!
# Texts that an encoding cannot write

Strict UTF-8 has no form for surrogates, ASCII has none beyond its 128 code points.  The message
about such a text shows the first run of code points without a form: one by its number, several by
their positions.
-/

namespace Entitlement

namespace Text

/-- The first run of code points of a class: its position, and the code points. -/
def run? (p : CodePoint → Bool) (t : Text) : Option (Nat × Text) :=
  match t.span fun c => !p c with
  | (_, []) => none
  | (front, rest) => some (front.length, rest.takeWhile p)

/-- The message about a run that a codec cannot write. -/
def encodingMessage (codec reason : Text) (position : Nat) (run : Text) : Text :=
  let what : Text :=
    match run with
    | [c] => "character '" ++ numberEscape c ++ "' in position " ++ decimal position
    | run =>
      "characters in position " ++ decimal position ++ "-" ++ decimal (position + run.length - 1)
  "'" ++ codec ++ "' codec can't encode " ++ what ++ ": " ++ reason

/-- Why a text has no strict UTF-8 form, if it has none. -/
def utf8Obstacle? (t : Text) : Option Text :=
  (run? CodePoint.isSurrogate t).map fun (position, run) =>
    encodingMessage "utf-8" "surrogates not allowed" position run

/-- A text with every surrogate replaced by three replacement characters, one for each byte of the
form that it would have. -/
def patched (t : Text) : Text :=
  t.flatMap fun c => if c.isSurrogate then List.replicate 3 0xFFFD else [c]

/-- Why a text has no ASCII form, if it has none. -/
def asciiObstacle? (t : Text) : Option Text :=
  (run? (fun c => !c.isAscii) t).map fun (position, run) =>
    encodingMessage "ascii" "ordinal not in range(128)" position run

end Text

end Entitlement
