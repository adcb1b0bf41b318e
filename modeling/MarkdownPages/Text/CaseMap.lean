/-!
# Case maps as runs of code points

Upper case, lower case and case folding each move most letters by a constant distance, either
every code point of a range (`a` to `z`) or every second one (`ā`, `ă`, `ą`). A case map is
therefore a list of runs, together with the few characters that become several.

## Main definitions

* `Text.CaseRun` — first and last code point, step, and the distance each of them moves
* `Text.shifted` — a code point moved by the run that holds it
* `Text.caseMapped` — a character under a full case map: one character or several
-/

namespace MarkdownPages

namespace Text

/-- First code point, last code point, step between members, and distance moved. -/
abbrev CaseRun := Nat × Nat × Nat × Int

/-- The code point `n` moved by the first run that holds it, or left where it is. -/
def shifted (n : Nat) : List CaseRun → Nat
  | [] => n
  | (first, last, step, distance) :: rest =>
    if first ≤ n && n ≤ last && (n - first) % step == 0 then (n + distance).toNat
    else shifted n rest

/-- The image of `c`: the listed characters if it becomes several, else the moved one. -/
def caseMapped (runs : List CaseRun) (several : List (Nat × List Nat)) (c : Char) : List Char :=
  match several.lookup c.toNat with
  | some image => image.map Char.ofNat
  | none => [Char.ofNat (shifted c.toNat runs)]

end Text

end MarkdownPages
