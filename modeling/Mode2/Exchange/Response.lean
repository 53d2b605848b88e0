import Mode2.Exchange.Basic
import Mode2.Query.Call

/-!
# Responses

A request is answered by a unicast frame in the same dialog: header, the operation
of the request, a body, and the footer. Who asks for no response gets none, and
the dialog ends.
-/

namespace Mode2

/-- What a response carries after its operation, appended to the staged frame. -/
abbrev ResponseBody (W : Type) := FrameQueue → StateM W (Score × FrameQueue)

namespace ResponseBody

variable {W : Type}

/-- Nothing. -/
def none : ResponseBody W := fun queue w => ((0, queue), w)

/-- The return of a call. -/
def answer (env : Environment W) (user : User) (call : Call) : ResponseBody W := fun queue =>
  env.answer user call queue

end ResponseBody

namespace Exchange

variable {W : Type}

/-- Begin the response with its header and its operation. -/
def beginResponse (c : Config) : ExchangeM W Score Unit := fun x =>
  match x.network.stageHeader c x.session .unicast (x.transport.command.has Command.nackBit) with
  | .error _ => .error .rejected x
  | .ok (session, network) =>
      let x := { x with session, network }
      match network.outbound.push (Command.responseCode ||| x.transport.command.operation) with
      | .error _ => .error .rejected x
      | .ok outbound => .ok () { x with network.outbound := outbound }

/-- Append the body of the response. -/
def appendBody (body : ResponseBody W) : ExchangeM W Score Unit := fun x =>
  match body x.network.outbound x.world with
  | ((score, outbound), world) =>
      let x := { x with network.outbound := outbound, world }
      if score < 0 then .error score x else .ok () x

/-- Complete the response; it is the dialog's turn to send it. -/
def endResponse (env : Environment W) : ExchangeM W Score Unit := fun x =>
  match x.network.complete env.cipher x.world with
  | ((.error _, network), world) => .error .rejected { x with network, world }
  | ((.ok (), network), world) =>
      .ok () { x with network, world, session := x.session.withSubstate .responseTx }

/-- Stage the response to the request being processed, if one is wanted. -/
def respond (env : Environment W) (c : Config) (body : ResponseBody W) :
    ExchangeM W Score Unit := do
  if (← get).transport.command.has Command.noResponseBit then
    ExchangeM.modifySession Session.scrap
  else
    beginResponse c
    appendBody body
    endResponse env

end Exchange

end Mode2
