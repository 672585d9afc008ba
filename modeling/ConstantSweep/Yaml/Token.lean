import ConstantSweep.Text.Utf8
import ConstantSweep.Yaml.Scalar

set_option autoImplicit false

namespace ConstantSweep.Yaml

open ConstantSweep.Text

def setKeyAllowed (allowed : Bool) : Scan Unit :=
  modify fun scanner => { scanner with keyAllowed := allowed }

-- Forgets candidates that are on an earlier line or too far back; one that had to be a key is an
-- error.
def dropStaleKeys : Scan Unit := do
  let scanner ← get
  let isStale (candidate : KeyCandidate) : Bool :=
    candidate.line != scanner.line || 1024 < scanner.index - candidate.index
  if scanner.candidates.any fun (_, candidate) => isStale candidate && candidate.required then malformed
  else
    set { scanner with candidates := scanner.candidates.filter fun (_, candidate) => !isStale candidate }

def dropKey : Scan Unit := do
  let scanner ← get
  match scanner.candidates.lookup scanner.flowLevel with
  | none => return
  | some candidate =>
      if candidate.required then malformed
      else
        set { scanner with
          candidates := scanner.candidates.filter fun (level, _) => level != scanner.flowLevel }

def saveKey : Scan Unit := do
  if (← get).keyAllowed then
    dropKey
    modify fun scanner =>
      let required := scanner.flowLevel == 0 && scanner.indent == (scanner.column : Int)
      let candidate : KeyCandidate :=
        ⟨scanner.tokenCount, required, scanner.index, scanner.line, scanner.column⟩
      { scanner with candidates := scanner.candidates ++ [(scanner.flowLevel, candidate)] }

def unwind (column : Int) : Nat → Scan Unit
  | 0 => return
  | fuel + 1 => do
      let scanner ← get
      if scanner.flowLevel == 0 && column < scanner.indent then
        set { scanner with indent := scanner.indents.headD (-1), indents := scanner.indents.drop 1 }
        emit .blockEnd
        unwind column fuel
      else return

def unwindTo (column : Int) : Scan Unit := do unwind column ((← get).indents.length + 1)

def indentTo (column : Int) : Scan Bool := do
  let scanner ← get
  if scanner.indent < column then
    set { scanner with indent := column, indents := scanner.indent :: scanner.indents }
    return true
  else return false

def skipToToken : Nat → Scan Unit
  | 0 => return
  | fuel + 1 => do
      skipSpaces
      skipComment
      if (← takeBreak).isEmpty then return
      else
        if (← get).flowLevel == 0 then setKeyAllowed true
        skipToToken fuel

def takeName : Scan String := do
  let name ← takeWhile isNameCharacter
  if name.isEmpty then malformed else return String.ofList name

def takeEscapedBytes : Nat → Scan (List UInt8)
  | 0 => malformed
  | fuel + 1 => do
      let scanner ← get
      match scanner.rest with
      | '%' :: high :: low :: _ =>
          if isHexadecimal high && isHexadecimal low then
            forward 3
            let more ← takeEscapedBytes fuel
            return (numberIn 16 [high, low]).toUInt8 :: more
          else malformed
      | '%' :: _ => malformed
      | _ => return []

def isLocatorCharacter (c : Char) : Bool :=
  c.isAlphanum || "-;/?:@&=+$,_.!~*'()[]".toList.contains c

def takeLocator (text : List Char) : Nat → Scan (List Char)
  | 0 => malformed
  | fuel + 1 => do
      let piece ← takeWhile isLocatorCharacter
      let text := text ++ piece
      if (← peek) == '%' then
        let bytes ← takeEscapedBytes (← room)
        match Utf8.decode bytes with
        | .ok decoded => takeLocator (text ++ decoded) fuel
        | .error _ => malformed
      else if text.isEmpty then malformed
      else return text

def takeLocatorText : Scan String := do return String.ofList (← takeLocator [] (← room))

def takeHandle : Scan String := do
  if (← peek) != '!' then malformed
  else
    forward
    if (← peek) == ' ' then return "!"
    else
      let name ← takeWhile isNameCharacter
      if (← peek) != '!' then malformed
      else
        forward
        return String.ofList ('!' :: name ++ ['!'])

def takeTag : Scan Token := do
  let next ← peek 1
  let (handle, suffix) ← show Scan (Option String × String) from
    if next == '<' then do
      forward 2
      let suffix ← takeLocatorText
      if (← peek) != '>' then malformed
      else
        forward
        return (none, suffix)
    else if isGap next then do
      forward
      return (none, "!")
    else do
      let word := ((← get).rest.drop 1).takeWhile fun c => !isSpaceOrBreak c
      let handle ← if word.contains '!' then takeHandle else do
        forward
        pure "!"
      return (some handle, ← takeLocatorText)
  if isSpaceOrBreak (← peek) then return .tag handle suffix else malformed

def takeAnchorName : Scan String := do
  forward
  let name ← takeName
  let c ← peek
  if isGap c || "?:,]\x7d%@\x60".toList.contains c then return name else malformed

def takeVersionNumber : Scan Nat := do
  let digits ← takeWhile Char.isDigit
  if digits.isEmpty then malformed
  else if digitLimit < digits.length then throw (.integer (.tooLong digits.length))
  else return numberIn 10 digits

def takeDirective : Scan Token := do
  forward
  let name ← takeName
  if !isSpaceOrBreak (← peek) then malformed
  else
    let token ← show Scan Token from
      if name == "YAML" then do
        skipSpaces
        let major ← takeVersionNumber
        if (← peek) != '.' then malformed
        else
          forward
          let _ ← takeVersionNumber
          if !isSpaceOrBreak (← peek) then malformed
          else return .directive name (toString major) ""
      else if name == "TAG" then do
        skipSpaces
        let handle ← takeHandle
        if (← peek) != ' ' then malformed
        else
          skipSpaces
          let leading ← takeLocatorText
          if !isSpaceOrBreak (← peek) then malformed else return .directive name handle leading
      else do
        let _ ← takeWhile fun c => !isBreak c
        return .directive name "" ""
    takeEmptyRest
    return token

def closeAll : Scan Unit := do
  unwindTo (-1)
  dropKey
  setKeyAllowed false

def fetchFlowStart (token : Token) : Scan Unit := do
  saveKey
  modify fun scanner => { scanner with flowLevel := scanner.flowLevel + 1 }
  setKeyAllowed true
  forward
  emit token

def fetchFlowEnd (token : Token) : Scan Unit := do
  dropKey
  modify fun scanner => { scanner with flowLevel := scanner.flowLevel - 1 }
  setKeyAllowed false
  forward
  emit token

def openBlock (start : Token) : Scan Unit := do
  let scanner ← get
  if scanner.flowLevel == 0 then
    if !scanner.keyAllowed then malformed
    else if ← indentTo scanner.column then emit start

def fetchBlockEntry : Scan Unit := do
  openBlock .blockSequenceStart
  setKeyAllowed true
  dropKey
  forward
  emit .blockEntry

def fetchKey : Scan Unit := do
  openBlock .blockMappingStart
  setKeyAllowed ((← get).flowLevel == 0)
  dropKey
  forward
  emit .key

-- A colon makes a key of the candidate of its level, which may open a block where it began; without a
-- candidate it stands for a key that is empty or complex.
def fetchValue : Scan Unit := do
  let scanner ← get
  match scanner.candidates.lookup scanner.flowLevel with
  | some candidate =>
      set { scanner with
        candidates := scanner.candidates.filter fun (level, _) => level != scanner.flowLevel }
      emitBefore candidate.token .key
      if scanner.flowLevel == 0 then
        if ← indentTo candidate.column then emitBefore candidate.token .blockMappingStart
      setKeyAllowed false
  | none =>
      openBlock .blockMappingStart
      setKeyAllowed (scanner.flowLevel == 0)
      dropKey
  forward
  emit .value

def fetchContent (take : Scan Token) : Scan Unit := do
  saveKey
  setKeyAllowed false
  let token ← take
  emit token

def fetchBlockScalar : Scan Unit := do
  setKeyAllowed true
  dropKey
  let token ← takeBlock
  emit token

def isIndicator (c : Char) : Bool := "-?:,[]\x7b\x7d#&*!|>'\"%@\x60".toList.contains c

def fetchToken : Scan Unit := do
  if (← get).index == 0 && (← peek) == '\ufeff' then forward
  skipToToken (← room)
  dropStaleKeys
  unwindTo (← get).column
  let scanner ← get
  let c := scanner.peekAt 0
  let next := scanner.peekAt 1
  let block := scanner.flowLevel == 0
  let atMargin := scanner.column == 0
  let mark := scanner.rest.take 3
  let markEnds := isGap (scanner.peekAt 3)
  if scanner.rest.isEmpty then
    closeAll
    emit .streamEnd
    modify fun scanner => { scanner with finished := true, candidates := [] }
  else if c == '%' && atMargin then
    closeAll
    let token ← takeDirective
    emit token
  else if atMargin && mark == ['-', '-', '-'] && markEnds then
    closeAll
    forward 3
    emit .documentStart
  else if atMargin && mark == ['.', '.', '.'] && markEnds then
    closeAll
    forward 3
    emit .documentEnd
  else if c == '[' then fetchFlowStart .flowSequenceStart
  else if c == '{' then fetchFlowStart .flowMappingStart
  else if c == ']' then fetchFlowEnd .flowSequenceEnd
  else if c == '}' then fetchFlowEnd .flowMappingEnd
  else if c == ',' then
    setKeyAllowed true
    dropKey
    forward
    emit .flowEntry
  else if c == '-' && isGap next then fetchBlockEntry
  else if c == '?' && (!block || isGap next) then fetchKey
  else if c == ':' && (!block || isGap next) then fetchValue
  else if c == '*' then fetchContent (do return .alias (← takeAnchorName))
  else if c == '&' then fetchContent (do return .anchor (← takeAnchorName))
  else if c == '!' then fetchContent takeTag
  else if (c == '|' || c == '>') && block then fetchBlockScalar
  else if c == '\'' || c == '"' then fetchContent takeQuoted
  else if (!isGap c && !isIndicator c) ||
      (!isGap next && (c == '-' || (block && (c == '?' || c == ':')))) then fetchContent takePlain
  else malformed

-- The tokens before a fault. What may still turn out to be a key is not handed out until that is known, nor
-- is anything after it.
def tokensBefore (scanner : Scanner) (fault : Fault) : List Token × Option Fault :=
  match dropStaleKeys.run scanner with
  | .error stale => (scanner.tokens.reverse, some stale)
  | .ok (_, scanner) =>
      let settled := scanner.candidates.foldl (fun least entry => min least entry.2.token) scanner.tokenCount
      (scanner.tokens.reverse.take settled, some fault)

def fetchAll : Nat → Scanner → List Token × Option Fault
  | 0, scanner => (scanner.tokens.reverse, some .document)
  | fuel + 1, scanner =>
      if scanner.finished then (scanner.tokens.reverse, none)
      else match fetchToken.run scanner with
        | .ok (_, scanner) => fetchAll fuel scanner
        | .error fault => tokensBefore scanner fault

def tokensOf (text : List Char) : List Token × Option Fault :=
  if text.all isAllowed then fetchAll (text.length + 2) (.start text) else ([], some .document)

end ConstantSweep.Yaml
