import Derouter.P2p.Reqres

open Sql

namespace Derouter

-- Written immediately to an outbound stream.
structure JobConnectionHeadRequest where
  providerJobId : String
deriving DecidableEq

inductive JobConnectionHeadResponse
  | ok
  -- Job not found by `providerJobId`.
  | jobNotFound
  -- Job is found, but its contents is not available anymore.
  | jobExpired
  -- Provider is temporarily busy.
  | busy
  | anotherError (error : String)
deriving DecidableEq

-- What happens while the handler of a job connection runs.
structure JobConnectionEvents where
  -- The queue of the module takes the two requests. If it does not, the handler panics.
  prepareSent : Bool
  openSent    : Bool
  -- The module's reply, which is missing when its connection has ended.
  reply       : Option InboundResponseFrameData
  -- The response gets written to the stream.
  written     : Bool
  -- The counter of the module's connection.
  counter     : UInt64

-- What the remote peer reads from the stream, if anything, and what the module is sent.
structure JobConnectionAnswer where
  response : Option JobConnectionHeadResponse
  requests : List (UInt32 × OutboundRequestFrameData) := []
deriving DecidableEq

-- The response to the reply of the module, and the nonce of the connection to open.
def jobConnectionResponse :
    Option InboundResponseFrameData → JobConnectionHeadResponse × Option String
  | some (.providerPrepareJobConnection (.ok nonce))   => (.ok, some nonce)
  | some (.providerPrepareJobConnection .jobNotFound)  => (.jobNotFound, none)
  | some (.providerPrepareJobConnection .busy)         => (.busy, none)
  | some _                                             => (.busy, none)
  | none                                               => (.busy, none)

def handleJobConnectionStream (plan : Plan JobJoin) (events : JobConnectionEvents) (db : Database)
    (provider : ProviderState) (fromPeerId toPeerId : PeerId) (request : JobConnectionHeadRequest) :
    JobConnectionAnswer :=
  let write (response : JobConnectionHeadResponse) : Option JobConnectionHeadResponse :=
    if events.written then some response else none
  match db.findByJobId plan toPeerId request.providerJobId with
  | none     => { response := write .jobNotFound }
  | some job =>
    if fromPeerId ≠ job.consumerPeerId then
      { response := write .jobNotFound }
    else
      match provider.findOffer job.offerProtocolId job.offerId with
      -- The search panics.
      | none              => { response := none }
      | some none         => { response := write .jobExpired }
      | some (some offer) =>
        if !events.prepareSent then
          { response := none }
        else
          let prepare := (
            offer.moduleId,
            OutboundRequestFrameData.providerPrepareJobConnection toPeerId request.providerJobId
          )
          match jobConnectionResponse events.reply with
          | (response, none)       => { response := write response, requests := [prepare] }
          | (response, some nonce) => {
              response := write response
              requests :=
                if events.written && events.openSent then
                  [prepare, (offer.moduleId, .providerOpenJobConnection (events.counter + 1) nonce)]
                else
                  [prepare]
            }

end Derouter
