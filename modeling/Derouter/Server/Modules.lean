import Derouter.Server.Tracked

open Sql Transition

namespace Derouter
namespace Server

-- The tasks that hold the other ends of the modules' channels have not ended.
def Attended (s : Server) : Prop :=
  ∀ m c, s.node.provider.receiver m = some c → c ∈ s.tasks

variable {ext : External} {keypair : ext.Keypair} {self : PeerId} {s s' : Server} {l : Label}

theorem Attended.receives (ha : s.Attended) (hm : (s.node.provider.modules.lookup m).isSome) :
    s.Receives m := by
  obtain ⟨module, hl⟩ := Option.isSome_iff_exists.mp hm
  have hr : s.node.provider.receiver m = some module.outboundRequestTx := by
    rw [ProviderState.receiver, hl, Option.map_some]
  exact ⟨module.outboundRequestTx, ha m _ hr, hr⟩

theorem Attended.provided {node' : Node} (ha : s.Attended) (ht : c ∈ s.tasks)
    (hp : s.node.Provided c request m rowid node') : { s with node := node' }.Attended := by
  intro m' c' hr
  rw [hp.receivers] at hr
  split at hr
  case isTrue  => exact Option.some.inj hr ▸ ht
  case isFalse => exact ha m' c' hr

namespace Tracked

end Tracked

-- A module provides an offer.
private def provides : List Label := [
  .accept,
  .request 0 <| .providerProvide .scan 0 ⟨"protocol", "offer", "payload"⟩
]

end Server
end Derouter
