import Derouter.Parties

open Sql Transition

namespace Derouter
namespace Parties

-- All that a step can do.
inductive Effect (ext : External) (keypair : ext.Keypair) (provider : PeerId) (s : Parties) :
    Label → Parties → Prop
  | consumerOp (hl : op.Local (ext.peerId keypair)) :
    Effect ext keypair provider s (.consumerOp op) { s with
      consumer      := (op.exec ext s.consumer).1
      consumerTerms := record op.consumerTerms (op.exec ext s.consumer).2 s.consumerTerms
    }
  | providerOp (hl : op.Local provider) :
    Effect ext keypair provider s (.providerOp op) { s with
      provider      := { s.provider with db := (op.exec ext s.provider.db).1 }
      providerTerms := record op.providerTerms (op.exec ext s.provider.db).2 s.providerTerms
    }
  | providerOffers (ha : action.changesOffers = true) :
    Effect ext keypair provider s (.providerOffers action) { s with
      provider := s.provider.perform ext provider action
    }
  | requestCreation :
    Effect ext keypair provider s (.requestCreation i currency jobArgs) { s with
      creations := s.creations ++ [.requested i request]
    }
  | answerCreation (hk : s.creations[k]? = some (.requested i request))
      (hn : ext.peerId keypair ≠ provider)
      (hc : handleCreateJobRequest now later uuid reply s.provider.db s.provider.provider
        (ext.peerId keypair) request = some (response, db)) :
    Effect ext keypair provider s (.answerCreation k now later uuid reply) { s with
      provider  := { s.provider with db }
      creations := s.creations.set k
        (.answered i request response s.provider.db.serviceJobs.nextRowid)
    }
  | refuseCreation :
    Effect ext keypair provider s (.answerCreation k now later uuid reply) { s with
      creations := s.creations.set k .aborted
    }
  | finishCreation (hk : s.creations[k]? = some (.answered i request response providerRow))
      (hc : consumerCreateJob now s.consumer (ext.peerId keypair) i request response =
        some (consumerRow, db)) :
    Effect ext keypair provider s (.finishCreation k now) { s with
      consumer  := db
      creations := s.creations.set k (.created consumerRow providerRow)
    }
  | abortCreation :
    Effect ext keypair provider s (.finishCreation k now) { s with
      creations := s.creations.set k .aborted
    }
  | confirmationLoop {jobs : List UnconfirmedJob} :
    Effect ext keypair provider s (.confirmationLoop plan) { s with
      attempts := s.attempts ++ jobs.map .waiting
    }
  | handleConfirmation {log : List (Nat × ConfirmJobResponse)}
      (hc : handleConfirmJobRequest ext plan now provider s.provider.db (ext.peerId keypair)
        request = (response, db)) :
    Effect ext keypair provider s (.handleConfirmation k plan now) { s with
      provider  := { s.provider with db }
      responses := log
    }
  | finishConfirmation (hk : s.attempts[k]? = some (.waiting job))
      (hc : confirmJob now s.consumer job (some response) = some db) :
    Effect ext keypair provider s (.finishConfirmation k now response) { s with
      consumer := db
      attempts := s.attempts.set k (.finished job response)
    }
  | panicConfirmation :
    Effect ext keypair provider s (.finishConfirmation k now response) { s with
      attempts := s.attempts.set k (.panicked job)
    }
  | outboundFailure :
    Effect ext keypair provider s (.outboundFailure k) { s with
      attempts := s.attempts.set k (.failed job)
    }

theorem effect {keypair : ext.Keypair} {provider : PeerId} {s s' : Parties} {l : Label}
    (h : step ext keypair provider s l s') :
    Effect ext keypair provider s l s' := by
  cases l <;> simp only [step, ofFn, next] at h
  case consumerOp op =>
    split at h <;> try contradiction
    case _ hl => exact Option.some.inj h ▸ .consumerOp hl
  case providerOp op =>
    split at h <;> try contradiction
    case _ hl => exact Option.some.inj h ▸ .providerOp hl
  case providerOffers action =>
    split at h <;> try contradiction
    case _ ha => exact Option.some.inj h ▸ .providerOffers ha
  case requestCreation =>
    split at h <;> try contradiction
    split at h <;> try contradiction
    exact Option.some.inj h ▸ .requestCreation
  case answerCreation =>
    split at h <;> try contradiction
    case _ hk =>
    split at h <;> try contradiction
    case _ hn =>
    split at h
    case h_1 hc => exact Option.some.inj h ▸ .answerCreation hk hn hc
    case h_2    => exact Option.some.inj h ▸ .refuseCreation
  case finishCreation =>
    split at h <;> try contradiction
    case _ hk =>
    split at h
    case h_1 hc => exact Option.some.inj h ▸ .finishCreation hk hc
    case h_2    => exact Option.some.inj h ▸ .abortCreation
  case confirmationLoop =>
    split at h <;> try contradiction
    exact Option.some.inj h ▸ .confirmationLoop
  case handleConfirmation =>
    split at h <;> try contradiction
    split at h
    case h_1 hc => exact Option.some.inj h ▸ .handleConfirmation hc
    case h_2 hc => exact Option.some.inj h ▸ .handleConfirmation hc
  case finishConfirmation =>
    split at h <;> try contradiction
    case _ hk =>
    split at h <;> try contradiction
    split at h
    case h_1 hc => exact Option.some.inj h ▸ .finishConfirmation hk hc
    case h_2    => exact Option.some.inj h ▸ .panicConfirmation
  case outboundFailure =>
    split at h <;> try contradiction
    exact Option.some.inj h ▸ .outboundFailure

end Parties
end Derouter
