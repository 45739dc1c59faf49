import Flowscript.Programs.Digest
import Flowscript.Programs.Tool.Basic

/-!
# Programs that print digests

* `DigestKind` is a kind of digest.
* `digestTool` prints a digest of each input, or checks those that a list tells.
* `checksumTool` and `sumTool` print checksums.
-/

set_option autoImplicit false

namespace Flowscript.Tool

/-- A kind of digest: how it is called, how many bytes it has, and what it is of a text. -/
structure DigestKind where
  label : String
  size : Nat
  digest : Octets → List Nat

namespace DigestKind

/-- Digests by the rules of MD5. -/
def md5 : DigestKind := ⟨"MD5", 16, Digest.md5⟩

/-- Digests by the rules of SHA-1. -/
def sha1 : DigestKind := ⟨"SHA1", 20, Digest.sha1⟩

/-- Digests by the rules of SHA-2. -/
def sha2 (label : String) (d : Digest.Sha2) : DigestKind := ⟨label, d.size, d.digest⟩

/-- Digests by the rules of BLAKE2b. -/
def blake2 (size : Nat) : DigestKind := ⟨"BLAKE2b", size, Digest.blake2 size⟩

/-- The kinds by the names that they have as algorithms. -/
def all : List (String × DigestKind) :=
  [("md5", md5), ("sha1", sha1), ("sha224", sha2 "SHA224" .sha224),
    ("sha256", sha2 "SHA256" .sha256), ("sha384", sha2 "SHA384" .sha384),
    ("sha512", sha2 "SHA512" .sha512), ("blake2b", blake2 64)]

/-- The digest of a text as digits to the base sixteen. -/
def text (kind : DigestKind) (o : Octets) : Octets := Digest.hexDigits (kind.digest o)

/-- How a kind is called in a list, where a digest that is cut has its length. -/
def tag (kind : DigestKind) : String :=
  if kind.label == "BLAKE2b" && kind.size != 64 then kind.label ++ s!"-{8 * kind.size}"
  else kind.label

end DigestKind

/-! ## Lists of digests -/

/-- A name in a list of digests: a backslash comes before what would end a line, and before another
backslash. -/
def escapedName (name : Octets) : Octets := name.flatMap fun c =>
  match c with
  | '\\' => ['\\', '\\']
  | '\n' => ['\\', 'n']
  | '\r' => ['\\', 'r']
  | c => [c]

/-- The name that a name in a list means, if it is well written. -/
def unescapedName? (fuel : Nat) (name : Octets) : Option Octets :=
  match fuel, name with
  | 0, _ => none
  | _, [] => some []
  | fuel + 1, '\\' :: c :: r =>
    match c with
    | '\\' => (unescapedName? fuel r).map ('\\' :: ·)
    | 'n' => (unescapedName? fuel r).map ('\n' :: ·)
    | 'r' => (unescapedName? fuel r).map ('\r' :: ·)
    | _ => none
  | _, ['\\'] => none
  | fuel + 1, c :: r => (unescapedName? fuel r).map (c :: ·)

/-- The line of a list that tells a digest. -/
def digestLine (isTagged isBinary isZero : Bool) (kind : DigestKind) (path digest : Octets) :
    Octets :=
  let name := if isZero then path else escapedName path
  let lead := if name == path then [] else ['\\']
  lead ++ (if isTagged then octets (kind.tag ++ " (") ++ name ++ octets ") = " ++ digest
    else digest ++ [' ', if isBinary then '*' else ' '] ++ name)
    ++ [if isZero then '\x00' else '\n']

/-- Whether a character is blank. -/
def isSpaceOrTab (c : Char) : Bool := c == ' ' || c == '\t'

/-- What a line of a list tells: the kind, the digest, and the name of the file. -/
abbrev ListedDigest := DigestKind × Octets × Octets

/-- What a line with a tag tells after the tag. -/
def taggedDigest? (kind : DigestKind) (isEscaped : Bool) (o : Octets) : Option ListedDigest := do
  let o := if o.head? == some ' ' then o.drop 1 else o
  let inner ← match o with
    | '(' :: r => some r
    | _ => none
  let after := (inner.reverse.takeWhile (· != ')')).reverse
  if after.length == inner.length then none
  else
    let name := inner.take (inner.length - after.length - 1)
    let digest ← match after.dropWhile isSpaceOrTab with
      | '=' :: r => some (r.dropWhile isSpaceOrTab)
      | _ => none
    let name ← if isEscaped then unescapedName? (name.length + 1) name else some name
    if digest.length == 2 * kind.size && digest.all Text.isHexDigit then some (kind, digest, name)
    else none

/-- What a line of a list tells, whose digests are of a kind, or of those that tags tell. -/
def listedDigest? (kind : Option DigestKind) (line : Octets) : Option ListedDigest := do
  let line := line.dropWhile isSpaceOrTab
  let (isEscaped, line) := match line with
    | '\\' :: r => (true, r)
    | _ => (false, line)
  let kinds : List DigestKind := match kind with
    | some kind => [kind]
    | none => DigestKind.all.map (·.2)
  match kinds.find? fun kind => Octets.starts (octets kind.label) line with
  | some kind =>
    let rest := line.drop kind.label.length
    match rest with
    | '-' :: r =>
      let bits := r.takeWhile Char.isDigit
      let n ← Octets.natural? bits
      if kind.label == "BLAKE2b" && n % 8 == 0 && 0 < n && n ≤ 512 then
        taggedDigest? (.blake2 (n / 8)) isEscaped (r.drop bits.length)
      else none
    | _ => taggedDigest? kind isEscaped rest
  | none =>
    let kind ← kind
    let digest := line.takeWhile fun c => Text.isHexDigit c
    let size := digest.length / 2
    let kind := if kind.label == "BLAKE2b" then DigestKind.blake2 size else kind
    match line.drop digest.length with
    | ' ' :: c :: name =>
      if digest.length != 2 * kind.size || kind.size == 0 || name.isEmpty then none
      else
        let name := if c == ' ' || c == '*' then name else c :: name
        let name ← if isEscaped then unescapedName? (name.length + 1) name else some name
        some (kind, digest, name)
    | _ => none

/-! ## Checking -/

/-- How the digests of a list fared: how many lines there are, how many are no digests, how many
are, how many of those are right, how many wrong, and how many of the files cannot be read. -/
structure DigestCount where
  lines : Nat
  malformed : Nat
  found : Nat
  right : Nat
  wrong : Nat
  unread : Nat

/-- Checks one line of a list. -/
def checkDigest (given : List GivenOption) (kind : Option DigestKind) (path : Octets)
    (count : DigestCount) (line : Octets) : ToolRun DigestCount := do
  let count := { count with lines := count.lines + 1 }
  let line := if line.getLast? == some '\r' then line.dropLast else line
  if line.isEmpty || line.head? == some '#' then return count
  match listedDigest? kind line with
  | none =>
    if has given "warn" then
      let label := (kind.map (·.label)).getD "CRC"
      complain (quoteName path ++ octets s!": {count.lines}: improperly formatted "
        ++ octets (label ++ " checksum line"))
    return { count with malformed := count.malformed + 1 }
  | some (kind, digest, name) =>
    let count := { count with found := count.found + 1 }
    let shown := escapedName name
    let shown := if shown == name then name else '\\' :: shown
    match ← readInput name with
    | .error fault =>
      if has given "ignore-missing" && fault == .missing then return count
      complainAbout name fault
      if !has given "status" then printLine (shown ++ octets ": FAILED open or read")
      return { count with unread := count.unread + 1 }
    | .ok bytes =>
      if kind.text (Octets.ofBytes bytes) == digest.map Char.toLower then
        if !has given "status" && !has given "quiet" then printLine (shown ++ octets ": OK")
        return { count with right := count.right + 1 }
      if !has given "status" then printLine (shown ++ octets ": FAILED")
      return { count with wrong := count.wrong + 1 }

/-- Says how many of something there are, if there are any. -/
def warnOfCount (count : Nat) (one many : String) : ToolRun Unit := do
  if 0 < count then
    complain (octets (s!"WARNING: {count} " ++ if count == 1 then one else many))

/-- Checks the digests of a list. -/
def checkList (given : List GivenOption) (kind : Option DigestKind) (path : Octets) :
    ToolRun Unit := do
  match ← readInput path with
  | .error fault =>
    complainAbout path fault
    noteFailure 1
  | .ok bytes =>
    let shown := if path == ['-'] then octets "'standard input'" else path
    let lines := (Octets.lines (Octets.ofBytes bytes)).1
    let count ← lines.foldlM (checkDigest given kind shown) ⟨0, 0, 0, 0, 0, 0⟩
    if count.found == 0 then
      complain (shown ++ octets ": no properly formatted checksum lines found")
    else if !has given "status" then
      warnOfCount count.malformed "line is improperly formatted" "lines are improperly formatted"
      warnOfCount count.unread "listed file could not be read" "listed files could not be read"
      warnOfCount count.wrong "computed checksum did NOT match" "computed checksums did NOT match"
      if has given "ignore-missing" && count.right == 0 then
        complain (shown ++ octets ": no file was verified")
    let isGood := 0 < count.right && count.wrong + count.unread == 0
      && (!has given "strict" || count.malformed == 0)
    if !isGood then noteFailure 1

/-- The options of programs that print digests. -/
def digestOptions : List OptionSpec :=
  [.flag 'b' "binary", .flag 'c' "check", .flag 't' "text", .flag 'z' "zero", .flag 'w' "warn",
    .flag OptionSpec.noLetter "tag", .flag OptionSpec.noLetter "quiet",
    .flag OptionSpec.noLetter "status", .flag OptionSpec.noLetter "strict",
    .flag OptionSpec.noLetter "ignore-missing"]

/-- Refuses options that do not go together. -/
def refuseDigestOptions (given : List GivenOption) : ToolRun Unit := do
  if has given "check" then
    if has given "tag" then
      giveUpUsage 1 (octets "the --tag option is meaningless when verifying checksums")
    if has given "zero" then
      giveUpUsage 1 (octets "the --zero option is not supported when verifying checksums")
    if has given "binary" || has given "text" then
      giveUpUsage 1 (octets ("the --binary and --text options are meaningless when "
        ++ "verifying checksums"))
  else
    for name in ["ignore-missing", "status", "warn", "quiet", "strict"] do
      if has given name then
        giveUpUsage 1 (octets ("the --" ++ name
          ++ " option is meaningful only when verifying checksums"))

/-- The number of bytes of a digest whose length in bits is given. -/
def digestSize (given : List GivenOption) : ToolRun Nat := do
  match valueOf? given "length" with
  | none => return 64
  | some o =>
    let n ← integerIn 1 "invalid length" 0 (2 ^ 64 - 1) o
    if n % 8 != 0 then
      complain (octets "invalid length: " ++ quote o)
      giveUp 1 (octets "length is not a multiple of 8")
    if 512 < n then
      complain (octets "invalid length: " ++ quote o)
      giveUp 1 (octets "maximum digest length for " ++ quote (octets "BLAKE2b")
        ++ octets " is 512 bits")
    return if n == 0 then 64 else n.toNat / 8

/-- Prints the digest of each input, or checks digests. -/
def runDigests (given : List GivenOption) (kind : DigestKind) (isTagged : Bool)
    (paths : List Octets) : ToolRun Nat := do
  for path in inputsOr paths do
    match ← readInput path with
    | .error fault =>
      complainAbout path fault
      noteFailure 1
    | .ok bytes =>
      print (digestLine isTagged (has given "binary") (has given "zero") kind path
        (kind.text (Octets.ofBytes bytes)))
  notedStatus

/-- Prints the digest of each input, or checks digests. -/
def digestTool (kind : DigestKind) : Procedure := fun _ arguments => do
  let isCut := kind.label == "BLAKE2b"
  let more : List OptionSpec := if isCut then [.setting 'l' "length"] else []
  let (given, paths) ← options (more ++ digestOptions) 1 arguments
  let size ← digestSize given
  let kind := if isCut then .blake2 size else kind
  refuseDigestOptions given
  if has given "check" then
    for path in inputsOr paths do checkList given (some kind) path
    notedStatus
  else runDigests given kind (has given "tag") paths

/-! ## Checksums -/

/-- A number with blanks before it. -/
def padded (width n : Nat) (fill : Char) : Octets :=
  let digits := Nat.toDigits 10 n
  List.replicate (width - digits.length) fill ++ digits

/-- The text of a checksum, by the name of its algorithm. -/
def checksumText (algorithm : String) (o : Octets) : Octets :=
  let size := o.length
  match algorithm with
  | "bsd" => padded 5 (Digest.turningSum o) '0' ++ ' ' :: padded 5 ((size + 1023) / 1024) ' '
  | "sysv" => padded 1 (Digest.plainSum o) ' ' ++ ' ' :: padded 1 ((size + 511) / 512) ' '
  | _ => padded 1 (Digest.crc o) ' ' ++ ' ' :: padded 1 size ' '

/-- Prints a checksum of each input. -/
def runChecksums (algorithm : String) (mark : Char) (paths : List Octets) : ToolRun Nat := do
  for path in inputsOr paths do
    match ← readInput path with
    | .error fault =>
      complainAbout path fault
      noteFailure 1
    | .ok bytes =>
      let name := if paths.isEmpty then [] else ' ' :: path
      print (checksumText algorithm (Octets.ofBytes bytes) ++ name ++ [mark])
  notedStatus

/-- Prints a checksum or a digest of each input. -/
def checksumTool : Procedure := fun _ arguments => do
  let (given, paths) ← options
    (digestOptions ++ [.setting 'a' "algorithm", .setting 'l' "length",
      .flag OptionSpec.noLetter "untagged", .flag OptionSpec.noLetter "debug"]) 1 arguments
  let names := ["bsd", "sysv", "crc"]
  let algorithm ← (valueOf? given "algorithm").mapM
    (chooseWord "--algorithm" ((names ++ DigestKind.all.map (·.1) ++ ["sm3"]).map ([·])))
  if has given "length" && algorithm != some "blake2b" then
    giveUp 1 (octets "--length is only supported with --algorithm=blake2b")
  let size ← digestSize given
  let kind := algorithm.bind fun name => DigestKind.all.lookup name
  let kind := kind.map fun kind =>
    if kind.label == "BLAKE2b" then DigestKind.blake2 size else kind
  if has given "check" && kind.isNone && algorithm.isSome then
    giveUpUsage 1 (octets "--check is not supported with --algorithm=\x7bbsd,sysv,crc\x7d")
  refuseDigestOptions given
  if has given "check" then
    for path in inputsOr paths do checkList given kind path
    return ← notedStatus
  let choices := given.filterMap fun o =>
    if o.1 == "tag" then some true else if o.1 == "untagged" then some false else none
  match kind with
  | some kind => runDigests given kind (choices.getLastD true) paths
  | none =>
    runChecksums (algorithm.getD "crc") (if has given "zero" then '\x00' else '\n') paths

/-- Prints a sum of the bytes of each input. -/
def sumTool : Procedure := fun _ arguments => do
  let (given, paths) ← options [.flag 'r' "bsd", .flag 's' "sysv"] 1 arguments
  let names := (given.map (·.1)).filter fun name => name == "bsd" || name == "sysv"
  runChecksums (names.getLastD "bsd") '\n' paths

end Flowscript.Tool
