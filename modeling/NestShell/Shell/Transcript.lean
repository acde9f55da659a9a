import NestShell.Shell.State
/-!
What a conversation with a shell looks like from outside. A request remembers how much had been
printed before it, so all that was printed falls between the requests, with nothing lost or shown
twice.
-/
namespace NestShell.Shell

/-- A request for a line, what was printed until the next one, and where the shell stood then. -/
structure Turn where
  prompt : String
  answer : Option Input
  output : String
  depth : Nat
  status : Nat
  pending : Nat

structure Transcript where
  /-- What was printed before the first request. -/
  before : String
  turns : List Turn

def outputBetween (out : Array Char) (start stop : Nat) : String :=
  String.ofList (out.extract start stop).toList

/-- What was printed after the first `start` characters. -/
def Desk.printedFrom (d : Desk) (start : Nat) : String :=
  String.ofList (d.machine.output.toList.drop start)

/-- The requests, each up to the next one and the last one up to `final`. -/
def turnsUpTo (out : Array Char) (final : Exchange) : List Exchange → List Turn
  | [] => []
  | e :: rest =>
    let next := rest.headD final
    ⟨e.prompt, e.answer, outputBetween out e.printed next.printed, next.depth, next.status,
      next.pending⟩ :: turnsUpTo out final rest

/-- The conversation since `start` characters were printed, for a shell that ended at a depth. -/
def Desk.transcript (d : Desk) (start depth : Nat) : Transcript :=
  let out := d.machine.output.toList.toArray
  let final : Exchange := ⟨out.size, depth, d.status, d.pending.length, "", none⟩
  let requests := d.source.exchanges.reverse
  ⟨outputBetween out start (requests.headD final).printed, turnsUpTo out final requests⟩

end NestShell.Shell
