import LogicalBackup.Session.Statements

/-!
# Canned servers

A server that replies to statements from a list of replies, each of which is for one statement.
Replies to the same statement are given in their order, and the last of them again and again.
-/

namespace LogicalBackup

/-- A reply that is held ready for a statement. -/
structure CannedReply where
  sql : Bytes
  /-- The parameters that the statement must be prepared and given, if any. -/
  parameters : Option (List String) := none
  reply : Reply
  deriving DecidableEq, Repr

/-- Whether a reply is for a statement and its parameters. -/
def CannedReply.isFor (r : CannedReply) (s : Statement) : Bool :=
  r.sql = s.sql && (r.parameters.isNone || r.parameters = s.parameters)

/-- What a canned server replies. -/
structure Canned where
  /-- The error with which each login is refused, if any. -/
  refusal : Option ServerError := none
  replies : List CannedReply := []
  deriving DecidableEq, Repr

/-- The replies that are left, and the statements heard so far. -/
structure CannedState where
  /-- The replies that were not given yet. -/
  fresh : List CannedReply
  heard : List Statement := []
  deriving DecidableEq, Repr

namespace Canned

/-- The state before the first statement. -/
def initial (canned : Canned) : CannedState := { fresh := canned.replies }

/-- The reply to a statement for which no fresh reply is held ready. -/
def lastReply (canned : Canned) (s : Statement) : Reply :=
  ((canned.replies.filter (·.isFor s)).getLast?.map (·.reply)).getD (.done 0)

/-- The answer to a login or to a statement, which is a fresh reply if one is left. -/
def answer (canned : Canned) : (op : StatementOp) → CannedState → op.Reply × CannedState
  | .login, state =>
    (match canned.refusal with
      | some e => .error e
      | none => .ok (), state)
  | .say s, state =>
    let heard := state.heard ++ [s]
    match state.fresh.find? (·.isFor s) with
    | some r => (r.reply, { fresh := state.fresh.eraseP (·.isFor s), heard })
    | none => (canned.lastReply s, { state with heard })

/-- The server whose statements are replied to in this way. -/
def server (canned : Canned) : Server CannedState := .ofStatements canned.answer

end Canned

end LogicalBackup
