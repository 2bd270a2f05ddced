/-
Module: OneTimePassword.Host
Purpose: The machine and the account that a secret is for.
Main exports: Host, Host.label, Host.issuer, Home.secretPath?
-/
import OneTimePassword.Text.Integer

namespace OneTimePassword

/-- The machine that a run takes place on, and who runs it. -/
structure Host where
  /-- The machine's name, if it can be told. -/
  hostname? : Option String
  /-- The login name of the account, if it has one. -/
  account? : Option String
  /-- The number of the account. -/
  uid : Nat
deriving Repr, DecidableEq

namespace Host

/-- The name of the machine. One that has none is called by its kind. -/
def name (host : Host) : String :=
  match host.hostname? with
  | none | some "" => "unix"
  | some name => name

/-- The account's login name, or its number. -/
def user (host : Host) : String := host.account?.getD (Text.decimalNat host.uid)

/-- The label of a secret where nothing else is said. -/
def label (host : Host) : String := host.user ++ "@" ++ host.name

/-- The issuer of a secret where nothing else is said. -/
def issuer (host : Host) : String := host.name

end Host

/-- The secret file's name in a home directory. -/
def Home.secretName : String := ".google_authenticator"

/-- The secret file in a home directory, which has to be given by an absolute path. -/
def Home.secretPath? (home : Option String) : Option String :=
  let home := (home.getD "").toList
  if home.head? ≠ some '/' then none
  else
    let separator := if home.getLast? = some '/' then [] else ['/']
    some (String.ofList (home ++ separator ++ secretName.toList))

end OneTimePassword
