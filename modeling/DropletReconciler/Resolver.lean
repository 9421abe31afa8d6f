import DropletReconciler.Credentials

/-!
A resolver of tokens over two files. The files can be replaced at any time, and are read only when the
resolver is opened again.
-/

namespace DropletReconciler

structure Resolver where
  files : Config.Files
  credentials : Credentials

namespace Resolver

/-- Files that are given replace those that were there. -/
inductive Request where
  | replace (global project : Option (Option FileEntry))
  | reopen
  | resolve (name : String) (environment : Environment)

inductive Response where
  | done
  | token (token : Value)
  deriving DecidableEq, Repr

/-- Answers a request; a resolver that cannot be opened again stays as it was. -/
def answer (r : Resolver) : Request → Except Fault Response × Resolver
  | .replace global project => (.ok .done, { r with files := r.files.replace global project })
  | .reopen =>
    match Credentials.ofFiles r.files with
    | .error fault => (.error fault, r)
    | .ok credentials => (.ok .done, { r with credentials := credentials })
  | .resolve name environment => ((r.credentials.resolve environment name).map .token, r)

end Resolver

end DropletReconciler
