import AddressPool.Block
import AddressPool.Job.Allocation
import AddressPool.Json

namespace AddressPool

-- Why a text holds no job. Of a fault in the JSON text only the class is kept: what the fault was
-- and where is not told, so the texts shown for it are stand-ins for those of a JSON library.
-- The position of a missing field is that of the octet read last.
inductive JobFault where
  | json (fault : Json.Fault)
  | missingNetwork (line column : Nat)
deriving DecidableEq

def JobFault.message : JobFault → String
  | .json .malformed => "the text is not JSON"
  | .json .truncated => "the text ends early"
  | .json .unfit => "the text does not describe a job"
  | .missingNetwork line column =>
    s!"missing field `network` at line {line} column {column}"

namespace Job

structure Draft where
  network : Option Block
  statics : Option (List Ip)
  identifiers : Option (List String)
  count : Option UInt64
  seed : Option (Option UInt64)

def Draft.empty : Draft := ⟨none, none, none, none, none⟩

-- A field may be given once. Where it stands a second time its value is not read any more.
def once {α : Type} (field : Option α) (value : Json.Reader α) : Json.Reader (Option α) := do
  if field.isSome then throw .unfit
  Json.mark Json.colon
  some <$> value

def readNetwork : Json.Reader Block := Json.parsed Block.parse?

def readStatics : Json.Reader (List Ip) := Json.list (Json.parsed Ip.parse?)

def readIdentifiers : Json.Reader (List String) := Json.list Json.string

def readCount : Json.Reader UInt64 := Json.natural64

def readSeed : Json.Reader (Option UInt64) := Json.nullable Json.natural64

def entry (draft : Draft) (key : String) : Json.Reader Draft := do
  match key with
  | "network" => return { draft with network := ← once draft.network readNetwork }
  | "static" => return { draft with statics := ← once draft.statics readStatics }
  | "identifiers" => return { draft with identifiers := ← once draft.identifiers readIdentifiers }
  | "count" => return { draft with count := ← once draft.count readCount }
  | "seed" => return { draft with seed := ← once draft.seed readSeed }
  | _ =>
    Json.mark Json.colon
    Json.skipValue
    return draft

def entries : (steps : Nat) → (first : Bool) → Draft → Json.Reader Draft
  | 0, _, _ => throw .truncated
  | steps + 1, first, draft => do
    match ← Json.key? first with
    | none => return draft
    | some key => entries steps false (← entry draft key)

def element? {α : Type} (first : Bool) (value : Json.Reader α) : Json.Reader (Option α) := do
  if ← Json.more first then some <$> value else return none

def ofList : Json.Reader Draft := do
  let some network ← element? true readNetwork | throw .unfit
  let statics ← element? false readStatics
  let identifiers ← element? false readIdentifiers
  let count ← element? false readCount
  let some seed ← element? false readSeed | throw .unfit
  Json.mark Json.closeList
  return ⟨some network, statics, identifiers, count, some seed⟩

-- An object with a field for each part of the job, or a list of all parts in their order. An
-- entry takes an octet at least, so there are fewer of them than octets.
def draft : Json.Reader Draft := do
  match ← Json.peek with
  | 0x7b => Json.skip; entries ((← get).length + 1) true .empty
  | 0x5b => Json.skip; ofList
  | _ => Json.unfit

def position (text rest : Bytes) : Nat × Nat :=
  let done := text.take (text.length - rest.length)
  (done.count 0x0a + 1, (done.reverse.takeWhile (· != 0x0a)).length)

def read (text : Bytes) : Except JobFault Job :=
  match draft.run text with
  | .error fault => .error (.json fault)
  | .ok (draft, rest) =>
    match draft.network with
    | none =>
      let (line, column) := position text rest
      .error (.missingNetwork line column)
    | some network =>
      if rest.all Json.isBlank then
        .ok ⟨network, draft.statics.getD [], draft.identifiers.getD [], draft.count.getD 0,
          draft.seed.getD none⟩
      else .error (.json .malformed)

end Job
end AddressPool
