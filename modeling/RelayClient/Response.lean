import RelayClient.CharsetName
import RelayClient.JsonBytes
import RelayClient.Relayer

/-!
# Answers of servicers

An answer of status 200 is a relay output, one of 500 and above a failure of the node, and any other
a refusal, which says why if its body has the form of one.
-/
namespace RelayClient

structure Response where
  status : Int
  mediaType : Option (List Char) := none
  body : Bytes := []

/-- A member that has to be text, empty if it is left out. -/
def textMember? (entries : Entries) (key : String) : Option Text :=
  match Entries.value? key entries with
  | none => some []
  | some (.text t) => some t
  | some _ => none

def RelayOutput.ofValue? : Value → Option RelayOutput
  | .object entries => do
    let response ← textMember? entries "response"
    let signature ← textMember? entries "signature"
    return ⟨response, signature⟩
  | _ => none

/-- Why a servicer refused a relay. -/
structure Refusal where
  code : Int
  codespace : Text
  message : Text

namespace Refusal

/-- What follows a zero: further zeros and underscores up to a digit, a sign or the point, before
which one character is kept. -/
def dropZeros (last : CodePoint) : Text → Option Text
  | [] => some [last]
  | c :: r =>
    if c = '0' || c = '_' then dropZeros c r
    else if c.isDigit || c = '-' then some (c :: r)
    else if c = '.' then some (last :: c :: r)
    else none

def significant? : Text → Option Text
  | [] => none
  | c :: r => if c = '0' then dropZeros c r else if c.isDigit then some (c :: r) else none

/-- A numeral without a fraction of zeros. -/
def withoutFraction (t : Text) : Text :=
  match t.span (· != ('.' : CodePoint)) with
  | (whole, _ :: zeros) =>
    if !zeros.isEmpty && zeros.all (· == ('0' : CodePoint)) then whole else t
  | _ => t

/-- Drops the underscores of a numeral in which they are single and between other characters. -/
def ungrouped (t : Text) : Text :=
  if singly true t then t.filter (· != ('_' : CodePoint)) else t
where
  singly (atEdge : Bool) : Text → Bool
    | [] => !atEdge
    | c :: r => if c = '_' then !atEdge && singly true r else singly false r

/-- A plain integer: no zero before its other digits, and no more digits than can be read. -/
def plainInteger? (t : Text) : Option Int :=
  let (negative, digits) : Bool × Text := match t with
    | [] => (false, [])
    | c :: r => if c = '-' then (true, r) else (false, t)
  if digits.isEmpty || !digits.all (·.isDigit) || digits.length > maxDigits then none
  else if digits.length > 1 && digits.head? = some ('0' : CodePoint) then none
  else
    let n : Int := Numeral.value (digits.map fun c => Char.ofNat c.val)
    some (if negative then -n else n)

/-- An integer written as text: padded, signed, filled up with zeros, grouped by underscores, with a
fraction of zeros. A minus sign after the zeros counts as well. -/
def codeOfText? (t : Text) : Option Int := do
  let t := t.trimmed
  let (minus, r) : Text × Text := match t with
    | [] => ([], [])
    | c :: r => if c = '-' then ([c], r) else if c = '+' then ([], r) else ([], t)
  let digits ← significant? r
  plainInteger? (minus ++ ungrouped (withoutFraction digits))

/-- The integer that a code stands for; a float has to be whole and of less than 64 bits. -/
def code? : Value → Option Int
  | .bool b => some b.toInt
  | .int n => some n
  | .float x => x.integer?.bind fun n => if n.natAbs < 1 <<< 63 then some n else none
  | .text t => codeOfText? t
  | _ => none

def ofError? : Value → Option Refusal
  | .object entries => do
    let code ← (Entries.value? "code" entries).bind code?
    let codespace ← textMember? entries "codespace"
    let message ← textMember? entries "message"
    return ⟨code, codespace, message⟩
  | _ => none

def hasDispatch : Option Value → Bool
  | none | some .null | some (.object _) => true
  | _ => false

def ofValue? : Value → Option Refusal
  | .object entries => do
    let refusal ← (Entries.value? "error" entries).bind ofError?
    if hasDispatch (Entries.value? "dispatch" entries) then return refusal else none
  | _ => none

end Refusal

namespace Response

/-- The text of the body; an empty one needs no character set. -/
def text (r : Response) : Except Fault Text :=
  if r.body.isEmpty then .ok [] else do (← Charset.ofMediaType r.mediaType).decode r.body

def withText (r : Response) (fault : Text → Fault) : Fault :=
  match r.text with
  | .ok t => fault t
  | .error f => f

/-- What an answer means, and what is logged about it. -/
def verdict (r : Response) (servicer : Value) : Except Fault RelayOutput × List LogRecord :=
  if r.status ≥ 500 then (.error (.serverStatus r.status), [])
  else if r.status ≠ 200 then
    match (Json.parse? r.body).bind Refusal.ofValue? with
    | some x => (.error (.rejected x.code x.codespace x.message servicer), [])
    | none => (.error (.unexpectedStatus r.status), [⟨.provider, .debug,
        Text.ofString "relay rejected with status " ++ Text.ofInt r.status ++
          Text.ofString " and unparseable body"⟩])
  else match Json.parse? r.body with
    | none => (.error (r.withText .nonJson), [])
    | some v => match RelayOutput.ofValue? v with
      | some output => (.ok output, [])
      | none => (.error (r.withText .malformed), [])

end Response
end RelayClient
