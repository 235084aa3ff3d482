import Lndhubx.Msgs

/-!
# Zap requests

`utils/src/nostr.rs`. A zap request is a nostr event, sent as JSON with a
request for an invoice. Parsing an event with its signature, and reading a
public key in one of its spellings, are functions of third-party crates and
parameters here (`NostrFns`); what the platform asks of a parsed event is
`validateZapRequest`. When the invoice is settled, the request is checked once
more and answered with a note (`createZapNote`); its signature is a parameter
too.
-/

namespace Lndhubx

def ZAP_REQUEST_MEMO : String := "Zap Request"

def ZAP_REQUEST_KIND : Nat := 9734

def ZAP_NOTE_KIND : Nat := 9735

/-- The tags of an event, as far as they are told apart. -/
inductive EventTag where
  | pubKey
  | event
  | generic (kind : String) (values : List String)
  | other
  deriving DecidableEq

structure NostrEvent where
  kind : Nat
  tags : List EventTag

/-- Why an event cannot be read. -/
inductive EventError where
  | invalidSignature
  | secp256k1
  | json
  | hex
  deriving DecidableEq

structure NostrFns where
  eventFromJson : String → Except EventError NostrEvent
  getPubkeyHex : String → Option String

inductive ZapError where
  | invalidJson
  | invalidSignature
  | notZapRequest
  | noTags
  | noPubkeyTag
  | invalidEventTagCount
  | noRelays
  | amountMismatch
  | descriptionHashMismatch
  | couldNotCreateZapNote
  deriving DecidableEq

/-- `str::parse::<u64>`: decimal digits after an optional plus sign. -/
def parseU64 (text : String) : Option Nat :=
  let digits := match text.toList with
    | '+' :: ds => ds
    | ds => ds
  if digits ≠ [] ∧ digits.all Char.isDigit then
    let n := digits.foldl (fun n d => 10 * n + (d.toNat - '0'.toNat)) 0
    if n < 2 ^ 64 then some n else none
  else none

/-- What the tags of a request say; later tags override earlier ones. -/
structure ZapTags where
  pubkeyTagsCount : Nat := 0
  eventTagsCount : Nat := 0
  relays : List String := []
  amount : Option Nat := none

def ZapTags.read (acc : ZapTags) : EventTag → ZapTags
  | .pubKey => { acc with pubkeyTagsCount := acc.pubkeyTagsCount + 1 }
  | .event => { acc with eventTagsCount := acc.eventTagsCount + 1 }
  | .generic kind values =>
    if kind = "relays" then { acc with relays := values }
    else if kind = "amount" then { acc with amount := values.head?.bind parseU64 }
    else acc
  | .other => acc

def validateZapRequest (fns : NostrFns) (json : String) (invoiceAmount : Nat) :
    Except ZapError NostrEvent :=
  match fns.eventFromJson json with
  | .error .invalidSignature => .error .invalidSignature
  | .error .secp256k1 => .error .invalidSignature
  | .error .json => .error .invalidJson
  | .error .hex => .error .invalidJson
  | .ok event =>
    let tags := event.tags.foldl ZapTags.read {}
    if event.kind ≠ ZAP_REQUEST_KIND then .error .noTags
    else if event.tags = [] then .error .noTags
    else if tags.pubkeyTagsCount < 1 then .error .noPubkeyTag
    else if 1 < tags.eventTagsCount then .error .invalidEventTagCount
    else if tags.relays = [] then .error .noRelays
    else match tags.amount with
      | some value => if value ≠ invoiceAmount then .error .amountMismatch else .ok event
      | none => .ok event

/-- What a note is made with: `sha256::digest`, and whether `to_event` can sign. -/
structure NoteFns extends NostrFns where
  digest : String → String
  signs : NostrEvent → Bool

/-- The published event. Its time is set after it was signed. -/
structure ZapNote extends NostrEvent where
  createdAt : Nat

/-- The values of a `relays` tag. -/
def EventTag.relays? : EventTag → Option (List String)
  | .generic kind values => if kind = "relays" then some values else none
  | .pubKey => none
  | .event => none
  | .other => none

/-- The tags of a request that its note repeats. -/
def EventTag.isRepeated : EventTag → Bool
  | .pubKey => true
  | .event => true
  | .generic _ _ => false
  | .other => false

def zapNoteTags (request : NostrEvent) (description bolt11 : String) (preimage : Option String) :
    List EventTag :=
  let responseTags : List EventTag :=
    [.generic "bolt11" [bolt11], .generic "description" [description]]
      ++ preimage.toList.map fun preImg => .generic "preimage" [preImg]
  request.tags.filter EventTag.isRepeated ++ responseTags

/-- The note and the relays it is sent to. -/
def createZapNote (fns : NoteFns) (amount : Nat) (description descriptionHash bolt11 : String)
    (preimage : Option String) (settledTimestamp : Nat) :
    Checked (Except ZapError (ZapNote × List String)) :=
  if descriptionHash ≠ fns.digest description then .ok (.error .descriptionHashMismatch)
  else
    match validateZapRequest fns.toNostrFns description amount with
    | .error e => .ok (.error e)
    | .ok request =>
      match request.tags.findSome? EventTag.relays? with
      | none => .error (.explicit "Relays should exist as request validation passed")
      | some relays =>
        let event : NostrEvent :=
          { kind := ZAP_NOTE_KIND, tags := zapNoteTags request description bolt11 preimage }
        if fns.signs event then
          .ok (.ok ({ toNostrEvent := event, createdAt := settledTimestamp }, relays))
        else .ok (.error .couldNotCreateZapNote)

end Lndhubx
