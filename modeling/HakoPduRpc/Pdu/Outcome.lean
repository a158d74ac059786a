import HakoPduRpc.Action.Types

/-!
# Outcomes of operations

The code under `src/` changes its own state, returns a value and calls
`hakoniwa::pdu::Endpoint::send`.  An operation of the model returns the three
together.  Whether a send succeeds is not decided here: every operation takes a
`SendOracle`, so a statement about all oracles is a statement about all send
outcomes.
-/

namespace HakoPduRpc

/-- Whether `Endpoint::send` returns `HAKO_PDU_ERR_OK` for these bytes. -/
abbrev SendOracle := PduResolvedKey → PduData → Bool

/-- The state after an operation, what it returned, and what it did outside its
own state, in order. -/
structure Outcome (σ ε α : Type) where
  state : σ
  result : α
  effects : List ε := []

namespace Outcome

variable {σ τ ε α β : Type}

/-- The operation seen from a state that holds `σ` as one of its parts. -/
def embed (o : Outcome σ ε α) (f : σ → τ) : Outcome τ ε α :=
  { state := f o.state, result := o.result, effects := o.effects }

@[simp] theorem embed_state (o : Outcome σ ε α) (f : σ → τ) :
    (o.embed f).state = f o.state := rfl

@[simp] theorem embed_result (o : Outcome σ ε α) (f : σ → τ) :
    (o.embed f).result = o.result := rfl

@[simp] theorem embed_effects (o : Outcome σ ε α) (f : σ → τ) :
    (o.embed f).effects = o.effects := rfl

end Outcome

end HakoPduRpc
