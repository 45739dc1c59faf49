import Flowscript.Programs.Text.CharClass
import Flowscript.Text.Octets

/-!
# Permissions

* `ModeChange` is a change of permissions, and `modeChanges?` reads some.
* `ModeSpec` is what becomes of permissions, and `modeSpec?` reads it: digits or changes.
-/

set_option autoImplicit false

namespace Flowscript

/-- The bits of a mode that letters mean. -/
def whoBits (letters : Octets) : Nat :=
  letters.foldl (fun bits c => bits ||| match c with
    | 'u' => 0o4700
    | 'g' => 0o2070
    | 'o' => 0o1007
    | _ => 0o7777) 0

/-- The bits that the letters of permissions mean; `isRunnable` says whether a capital letter means
that a file may be run. -/
def permissionBits (old : Nat) (isRunnable : Bool) (letters : Octets) : Nat :=
  letters.foldl (fun bits c => bits ||| match c with
    | 'r' => 0o444
    | 'w' => 0o222
    | 'x' => 0o111
    | 'X' => if isRunnable then 0o111 else 0
    | 's' => 0o6000
    | 't' => 0o1000
    | 'u' => (old >>> 6 &&& 7) * 0o111
    | 'g' => (old >>> 3 &&& 7) * 0o111
    | 'o' => (old &&& 7) * 0o111
    | _ => 0) 0

/-- A change of permissions: which bits may change, how, and the letters. -/
structure ModeChange where
  who : Nat
  isLimited : Bool
  operator : Char
  letters : Octets

/-- Reads the changes after the letters that say whose they are. -/
def readChanges? (who : Octets) (fuel : Nat) (o : Octets) : Option (List ModeChange) :=
  match fuel, o with
  | 0, _ => none
  | _, [] => some []
  | fuel + 1, c :: r =>
    if c == '+' || c == '-' || c == '=' then
      let letters := r.takeWhile fun d => "rwxXstugo".toList.contains d
      (readChanges? who fuel (r.drop letters.length)).map
        (⟨if who.isEmpty then 0o7777 else whoBits who, who.isEmpty, c, letters⟩ :: ·)
    else none

/-- Reads a mode in words. -/
def modeChanges? (o : Octets) : Option (List ModeChange) := do
  let clauses ← (Text.splitAt (· == ',') o).mapM fun clause =>
    let who := clause.takeWhile fun c => "ugoa".toList.contains c
    let rest := clause.drop who.length
    if rest.isEmpty then none else readChanges? who (rest.length + 1) rest
  some clauses.flatten

/-- Makes a change of permissions; letters for nobody leave out what the mask forbids. -/
def ModeChange.apply (change : ModeChange) (mask : Nat) (isDirectory : Bool) (old : Nat) : Nat :=
  let isRunnable := isDirectory || old &&& 0o111 != 0
  let bits := permissionBits old isRunnable change.letters &&& change.who
  let bits := if change.isLimited then bits &&& (0o7777 ^^^ mask) else bits
  match change.operator with
  | '+' => old ||| bits
  | '-' => old &&& (0o7777 ^^^ bits)
  | _ => (old &&& (0o7777 ^^^ change.who)) ||| bits

/-- What a mode makes of other permissions: the mask, whether it is a directory, and the old ones. -/
abbrev ModeSpec := Nat → Bool → Nat → Nat

/-- Reads a mode. -/
def modeSpec? (o : Octets) : Option ModeSpec :=
  if !o.isEmpty && o.all Text.isOctalDigit then
    let n := o.foldl (fun n d => n * 8 + Text.wideDigitValue d) 0
    if 0o7777 < n then none else some fun _ _ _ => n
  else
    (modeChanges? o).map fun changes mask isDirectory old =>
      changes.foldl (fun mode change => change.apply mask isDirectory mode) old

end Flowscript
