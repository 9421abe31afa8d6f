import DropletReconciler.Settings
import DropletReconciler.Value.Access
import DropletReconciler.Value.Alike

/-!
Access to the provider: a token, or the environment variable that holds one. Settings are taken as
they come; only their use shows whether they have the right type.
-/

namespace DropletReconciler

/-- The environment variables that are set. -/
abbrev Environment := List (String × String)

structure Account where
  token : Value
  tokenVariable : Value
  deriving DecidableEq, Repr

namespace Account

def usualVariable : String := "DIGITALOCEAN_TOKEN"

def usual : Account := ⟨.null, .text usualVariable⟩

/-- The only type of provider. -/
def typeName : String := "digitalocean"

def owner : String := "DigitalOcean.__init__()"

def set (account : Account) (name : String) (value : Value) : Except SettingsFault Account :=
  if name = "token" then .ok { account with token := value }
  else if name = "token_env" then .ok { account with tokenVariable := value }
  else .error (.refuse owner name)

/-- An account with the given settings and the usual ones for the rest. -/
def ofSettings (settings : List (Value × Value)) : Except SettingsFault Account := do
  let named ← settings.mapM fun (name, value) =>
    match name with
    | .text name => Except.ok (name, value)
    | _ => .error .notNamed
  named.foldlM (fun account (name, value) => account.set name value) usual

/-- A token that cannot be had. -/
inductive TokenFault where
  | notFound (name : Value)
  | misuse (fault : Value.Misuse)
  deriving DecidableEq, Repr

def TokenFault.message : TokenFault → String
  | .notFound name =>
    "DigitalOcean API token not found. Set it in the provider config or the " ++ name.written ++
      " environment variable."
  | .misuse fault => fault.message

/-- The value of a variable; its name must be a text. -/
def lookUp (environment : Environment) : Value → Except TokenFault (Option String)
  | .text name => .ok (environment.lookup name)
  | v => .error (.misuse (.notText v.kind))

/-- The token itself when it is set, else the one in the environment, which must not be empty. -/
def resolveToken (account : Account) (environment : Environment) : Except TokenFault Value := do
  if account.token.isPresent then pure account.token
  else
    match ← lookUp environment account.tokenVariable with
    | some token =>
      if token.isEmpty then throw (.notFound account.tokenVariable) else pure (.text token)
    | none => throw (.notFound account.tokenVariable)

end Account

end DropletReconciler
