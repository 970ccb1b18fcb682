import ChallengeGame.Script.Contract
import ChallengeGame.Scripted.Scene

/-!
# Surroundings in scripts

A script sets up the surroundings of a rehearsal and changes them step by step. A report
shows what is new in them.
-/

namespace ChallengeGame.Script

open ChallengeGame.Scripted (Scene Post)

def asTransaction (document : Document) : Read L1Transaction := do
  .ok {
    hash := (← optional asHash document "hash").getD (FixedBytes.zero 32)
    sender := ← address document "from"
    to? := ← optional asAddress document "to"
    input := ← bytes document "input"
    blobs := ← list asHash document "blobs" }

def asRollup (document : Document) : Read Rollup := do
  .ok ⟨← address document "inbox", ← list asAddress document "batchers",
    ← optional asUInt64 document "ecotone"⟩

def asInput (step : Document) : Read (Except ProviderError Bytes) := do
  match ← text step "is" with
  | "data" => .ok (.ok (← bytes step "data"))
  | "active" => .ok (.error .activeChallenge)
  | "pending" => .ok (.error .pendingChallenge)
  | "expired" => .ok (.error .expiredChallenge)
  | "past_window" => .ok (.error .missingPastWindow)
  | "failure" => .ok (.error (.other ⟨← text step "reason", []⟩))
  | other => .error ("unknown input " ++ other)

def asStatus (step : Document) : Read ChallengeStatus := do
  match ← text step "is" with
  | "uninitialized" => .ok .uninitialized
  | "active" => .ok .active
  | "resolved" => .ok .resolved
  | "expired" => .ok .expired
  | other => .error ("unknown status " ++ other)

/-- What a step changes in the contracts or the outboxes. -/
def asPostSetter (step : Document) : Read (Option (Post → Post)) := do
  match ← asContractChange step with
  | some change => .ok (some (·.adjust change))
  | none =>
    match ← text step "s" with
    | "sender_failure" =>
      let fault? ← optional asText step "reason"
      .ok (some fun post => { post with outbox := { post.outbox with fault? } })
    | "release" =>
      let permits ← count step "n"
      .ok (some fun post =>
        { post with outbox := { post.outbox with gate := post.outbox.gate.release permits } })
    | _ => .ok none

/-- What a step changes in the surroundings, if it is about them. -/
def asSetter (step : Document) : Read (Option (Scene → Scene)) := do
  match ← asPostSetter step with
  | some change =>
    let kind? ← optional asKind step "kind"
    .ok (some (Scene.adjustPosts kind? change))
  | none =>
    match ← text step "s" with
    | "l1_block" =>
      let block ← hash step "hash"
      let transactions ← list asTransaction step "txs"
      .ok (some fun scene => { scene with chain := scene.chain.insertBlock block transactions })
    | "l1_fail" =>
      let block ← hash step "hash"
      let reason? ← optional asText step "reason"
      .ok (some fun scene => { scene with chain := scene.chain.withhold block reason? })
    | "blob" =>
      let blob ← hash step "hash"
      let data ← bytes step "data"
      .ok (some fun scene => { scene with chain := scene.chain.insertBlob blob data })
    | "input" =>
      let commitment ← commitment step "commitment"
      let input ← asInput step
      .ok (some fun scene => { scene with provider := scene.provider.setInput commitment input })
    | "status" =>
      let commitment ← commitment step "commitment"
      let status ← asStatus step
      .ok (some fun scene => { scene with provider := scene.provider.setStatus commitment status })
    | "reorg" =>
      .ok (some fun scene => { scene with provider := scene.provider.refuse .reorgRequired })
    | "advance_failure" =>
      .ok (some fun scene =>
        { scene with provider := scene.provider.refuse Scripted.Provider.stuck })
    | _ => .ok none

def account (input : Document) : Read Address := do
  .ok ((← optional asAddress input "sender").getD (FixedBytes.splat 20 0x01))

def windows (input : Document) : Read (UInt64 × UInt64) := do
  match present input "windows" with
  | some windows =>
    .ok ((← optional asUInt64 windows "challenge").getD 0,
      (← optional asUInt64 windows "resolve").getD 0)
  | none => .ok (0, 0)

def asScene (input : Document) : Read Scene := do
  let contract := (← optional asAddress input "contract_address").getD
    (FixedBytes.splat 20 0xdc)
  let (challengeWindow, resolveWindow) ← windows input
  let gated ← list asKind input "gated"
  .ok {
    provider := Scripted.Provider.new
    chain := Scripted.Chain.new ((← optional (asCount "blobs_cut") input "blobs_cut").getD 0)
    posts := PerKind.ofFn fun kind =>
      ⟨.scripted (Scripted.Contract.new contract challengeWindow resolveWindow),
        Scripted.Outbox.new (if gated.contains kind then some 0 else none)⟩
    caller := Scripted.Caller.new []
    acted := [] }

def batchOut (batch : String × List Candidate) : Document :=
  .record [("purpose", .text batch.1), ("txs", .list (batch.2.map candidateOut))]

def indexedOut (blob : IndexedBlob) : Document :=
  .list [number blob.index.toNat, fixed blob.hash]

def resolutionOut (resolution : Resolution) : Document :=
  .list [number resolution.posting.block.toNat, hex resolution.posting.commitment,
    hex resolution.input]

def postReport (kind : ActionKind) (post : Post) : List Field :=
  let called := (post.contract?.map (·.called)).getD []
  listed ("sent." ++ kind.name) (post.outbox.sent.reverse.map batchOut) ++
    listed ("calls." ++ kind.name) (called.reverse.map fun method => .text method.name)

def sceneReport (scene : Scene) : List Field :=
  let resolutions := ((scene.posts.get .resolve).contract?.map (·.resolutions)).getD []
  (ActionKind.all.flatMap fun kind => postReport kind (scene.posts.get kind)) ++
    listed "resolved" (resolutions.reverse.map resolutionOut) ++
    listed "advanced" (scene.provider.advanced.reverse.map fun head =>
      .list [fixed head.hash, number head.number.toNat]) ++
    listed "fetched" (scene.provider.fetched.reverse.map fun (commitment, block) =>
      .list [hex commitment.encode, number block.toNat]) ++
    listed "blob_requests" (scene.chain.requests.reverse.map fun blobs =>
      .list (blobs.map indexedOut)) ++
    listed "acted" (scene.acted.reverse.map fun block => number block.toNat)

def sourceErrorName : SourceError → String
  | .reset _ => "Reset"
  | .temporary _ => "Temporary"
  | .notEnoughData => "NotEnoughData"
  | .missingBlobsFetcher _ => "MissingBlobsFetcher"

def sourceErrorOut (error : SourceError) : Document :=
  failureOut (sourceErrorName error) error.failure

end ChallengeGame.Script
