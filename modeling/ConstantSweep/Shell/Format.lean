import ConstantSweep.Shell.Octets
import ConstantSweep.Text.Numeral

set_option autoImplicit false

namespace ConstantSweep.Shell

open ConstantSweep.Text

def escapedLetters : List (Char × Char) :=
  [('a', '\x07'), ('b', '\x08'), ('f', '\x0c'), ('n', '\n'), ('r', '\r'), ('t', '\t'), ('v', '\x0b'),
   ('\\', '\\')]

def octalEscape (limit : Nat) (octets : Octets) : Char × Octets :=
  let digits := (octets.take limit).takeWhile isOctal
  (Char.ofNat (numberIn 8 digits % 256), octets.drop digits.length)

-- Replaces escapes: letters, and octal numbers that follow a zero. An escaped c ends the text, which is
-- told by `false`.
def unescapeText : Nat → Octets → Octets × Bool
  | 0, octets => (octets, true)
  | _, [] => ([], true)
  | fuel + 1, '\\' :: c :: rest =>
      let continueWith (shown : Octets) (rest : Octets) : Octets × Bool :=
        let (text, goesOn) := unescapeText fuel rest
        (shown ++ text, goesOn)
      match escapedLetters.lookup c with
      | some shown => continueWith [shown] rest
      | none =>
          if c == 'c' then ([], false)
          else if c == '0' then
            let (shown, rest) := octalEscape 3 rest
            continueWith [shown] rest
          else continueWith ['\\', c] rest
  | fuel + 1, c :: rest =>
      let (text, goesOn) := unescapeText fuel rest
      (c :: text, goesOn)

structure Layout where
  flags : Octets
  width : Nat
  precision : Option Nat
  deriving Repr

def Layout.pad (layout : Layout) (text : Octets) : Octets :=
  let missing := List.replicate (layout.width - text.length) ' '
  if layout.flags.contains '-' then text ++ missing else missing ++ text

def Layout.number (layout : Layout) (isNegative : Bool) (digits : Octets) : Octets :=
  let sign :=
    if isNegative then ['-'] else if layout.flags.contains '+' then ['+']
    else if layout.flags.contains ' ' then [' '] else []
  let wanted := match layout.precision with
    | some precision => precision
    | none =>
        if layout.flags.contains '0' && !layout.flags.contains '-' then layout.width - sign.length else 0
  layout.pad (sign ++ List.replicate (wanted - digits.length) '0' ++ digits)

-- An argument as a number: an integer, or the code of a character after a quote; `none` if it is neither.
def numericArgument? (argument : Octets) : Option Int :=
  match argument with
  | [] => some 0
  | '\'' :: c :: _ => some c.toNat
  | '"' :: c :: _ => some c.toNat
  | '0' :: x :: digits =>
      if (x == 'x' || x == 'X') && !digits.isEmpty && digits.all isHexadecimal then
        some (numberIn 16 digits)
      else if (x :: digits).all isOctal then some (numberIn 8 (x :: digits))
      else none
  | argument => readDecimal argument

-- What a format produced: the text, the arguments that are left, those that are no numbers, and whether
-- there is more to be written.
structure Formatted where
  text : Octets
  rest : List Octets
  faults : List Octets
  goesOn : Bool

namespace Formatted

def before (text : Octets) (formatted : Formatted) : Formatted :=
  { formatted with text := text ++ formatted.text }

def withFault (argument : Octets) (formatted : Formatted) : Formatted :=
  { formatted with faults := argument :: formatted.faults }

end Formatted

def formatField (layout : Layout) (kind : Char) (argument : Octets) : Octets × Bool × Bool :=
  let number := (numericArgument? argument).getD 0
  let isNumber := (numericArgument? argument).isSome
  let unsigned := (number.emod (Nat.pow 2 64)).toNat
  match kind with
  | 's' => (layout.pad (argument.take (layout.precision.getD argument.length)), true, true)
  | 'b' =>
      let (text, goesOn) := unescapeText (argument.length + 1) argument
      (layout.pad text, true, goesOn)
  | 'c' => (layout.pad (argument.take 1), true, true)
  | 'o' => (layout.number false (Nat.toDigits 8 unsigned), isNumber, true)
  | 'x' => (layout.number false (Nat.toDigits 16 unsigned), isNumber, true)
  | 'X' => (layout.number false ((Nat.toDigits 16 unsigned).map Char.toUpper), isNumber, true)
  | 'u' => (layout.number false (Nat.toDigits 10 unsigned), isNumber, true)
  | _ => (layout.number (number < 0) (Nat.toDigits 10 number.natAbs), isNumber, true)

def readLayout (octets : Octets) : Layout × Octets :=
  let isFlag (c : Char) : Bool := "-+ 0#".toList.contains c
  let flags := octets.takeWhile isFlag
  let octets := octets.dropWhile isFlag
  let width := octets.takeWhile Char.isDigit
  match octets.dropWhile Char.isDigit with
  | '.' :: octets =>
      (⟨flags, numberIn 10 width, some (numberIn 10 (octets.takeWhile Char.isDigit))⟩,
        octets.dropWhile Char.isDigit)
  | octets => (⟨flags, numberIn 10 width, none⟩, octets)

def formatOnce : Nat → Octets → List Octets → Formatted
  | 0, _, arguments => ⟨[], arguments, [], true⟩
  | _, [], arguments => ⟨[], arguments, [], true⟩
  | fuel + 1, '\\' :: c :: rest, arguments =>
      match escapedLetters.lookup c with
      | some shown => (formatOnce fuel rest arguments).before [shown]
      | none =>
          if c == 'c' then ⟨[], arguments, [], false⟩
          else if isOctal c then
            let (shown, rest) := octalEscape 3 (c :: rest)
            (formatOnce fuel rest arguments).before [shown]
          else (formatOnce fuel rest arguments).before ['\\', c]
  | fuel + 1, '%' :: '%' :: rest, arguments => (formatOnce fuel rest arguments).before ['%']
  | fuel + 1, '%' :: rest, arguments =>
      let (layout, rest) := readLayout rest
      match rest with
      | [] => ⟨[], arguments, [], true⟩
      | kind :: rest =>
          let (text, isNumber, goesOn) := formatField layout kind (arguments.headD [])
          if goesOn then
            let following := (formatOnce fuel rest arguments.tail).before text
            if isNumber then following else following.withFault (arguments.headD [])
          else ⟨text, arguments.tail, [], false⟩
  | fuel + 1, c :: rest, arguments => (formatOnce fuel rest arguments).before [c]

def formatAll (format : Octets) : Nat → List Octets → Formatted
  | 0, arguments => ⟨[], arguments, [], true⟩
  | fuel + 1, arguments =>
      let once := formatOnce (format.length + 1) format arguments
      if once.goesOn && !once.rest.isEmpty && once.rest.length < arguments.length then
        let following := formatAll format fuel once.rest
        { following with
          text := once.text ++ following.text
          faults := once.faults ++ following.faults }
      else once

end ConstantSweep.Shell
