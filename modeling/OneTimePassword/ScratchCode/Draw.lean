/-
Module: OneTimePassword.ScratchCode.Draw
Purpose: Scratch codes drawn at random. Each code gets a block of entropy of its own.
Main exports: ScratchCode.draw, ScratchCode.drawMany, ScratchCode.drawChecked
-/
import OneTimePassword.Session

namespace OneTimePassword.ScratchCode

/-- Draw one code, looking at no more than `blocks` blocks. A block whose number is turned down
costs another one. Having looked at all of them means that no code would ever come. -/
def drawWithin : (blocks : Nat) → SetupM Nat
  | 0 => throw (.random .unvarying)
  | blocks + 1 => do
      let value := ofBlock (← readRandom blockLength)
      if IsAccepted value then pure value
      else do
        note (.debug ("Scratch code below " ++ Text.decimalNat least ++ " rejected, drawing again"))
        drawWithin blocks

/-- Draw one code. A device has to run out after as many readings as it can still satisfy, unless it
is endless; then its first block tells whether it ever brings a code. -/
def draw : SetupM Nat := do
  let session ← get
  drawWithin (session.random.device.readingsLeft + 1)

/-- Draw a number of codes, one after another. -/
def drawAll : (count : Nat) → SetupM (List Nat)
  | 0 => pure []
  | count + 1 => do
      let code ← draw
      let codes ← drawAll count
      pure (code :: codes)

/-- Draw the codes of a run. -/
def drawMany (count : Nat) : SetupM (List Nat) := do
  let codes ← drawAll count
  note (.debug ("Generated " ++ Text.decimalNat codes.length ++ " scratch codes"))
  pure codes

/-- Draw as many codes as are asked for, if so many can be had. No entropy is read otherwise. -/
def drawChecked (count : Int) : SetupM (List Nat) := do
  let count ← orFail .conflict (Quantity.emergencyCodes.check count)
  drawMany count

end OneTimePassword.ScratchCode
