import NestShell.Shell.State
/-!
A game: guess a number.
-/
namespace NestShell.Commands

open NestShell.Text NestShell.Shell DeskM

/-- Reads guesses until the game ends; the fuel bounds their number. -/
def guess (depth : Nat) (secret : Int) : Nat → Nat → DeskM Reply
  | 0, _ => throw .outOfFuel
  | fuel + 1, attempts => do
    let giveUp : DeskM Reply := do
      puts ("The number was " ++ toString secret ++ ".")
      return .skip
    let reading : DeskM (Option String) := do return some (trim (← readLine depth "game > "))
    match ← catching "EOFError" reading fun _ => return none with
    | none => giveUp
    | some "." => giveUp
    | some text =>
      match int? text with
      | none =>
        puts "Please enter a number."
        guess depth secret fuel attempts
      | some n =>
        if n < secret then
          puts "Too low."
          guess depth secret fuel (attempts + 1)
        else if n > secret then
          puts "Too high."
          guess depth secret fuel (attempts + 1)
        else
          puts ("Well done! You guessed it in " ++ toString (attempts + 1) ++ " attempts.")
          return .nothing

/-- More guesses than any game has. -/
def guessFuel : Nat := 1000000000

def play (ctx : Context) (upper : Int) : DeskM Reply := do
  ask (.random 0 (max upper 0))
  let secret := (← get).outside.secret
  puts ("Guess a number between 0 and " ++ toString upper ++ ". ('.' to quit)")
  guess ctx.stack.depth secret guessFuel 0

def runGame (ctx : Context) : DeskM Reply := do
  match ctx.args with
  | [] => play ctx 100
  | text :: _ =>
    match int? text with
    | some upper => play ctx upper
    | none =>
      putsError ("MAX must be an integer: " ++ text)
      return .skip

end NestShell.Commands
