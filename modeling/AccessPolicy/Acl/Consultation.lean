import AccessPolicy.Acl.Basic

/-!
What a check consults, in order. Only oracles and hooks from outside are recorded, by their tag: the
rest of a list cannot tell whether it was asked. Asking stops with the first answer, and nothing is
asked on behalf of the system identity.
-/
namespace AccessPolicy

inductive Consultation where
  | oracle (tag : Nat) (sid : Sid)
  | hook (tag : Nat)
  deriving DecidableEq, Repr

namespace Oracle

def consulted : Oracle → Sid → Permission → List Consultation
  | custom tag _, s, _ => [.oracle tag s]
  | inheriting child parent, s, p =>
    child.consulted s p ++ if (child.decide s p).isSome then [] else parent.consulted s p
  | entries _, _, _ => []
  | matrix _, _, _ => []
  | property _, _, _ => []

/-- The consultations for the tokens in `ss`, up to the first that is answered. -/
def consultedFor (o : Oracle) (p : Permission) : List Sid → List Consultation
  | [] => []
  | s :: ss =>
    o.consulted s p ++ if (o.decide s p).isSome then [] else o.consultedFor p ss

end Oracle

namespace Acl

/-- The consultations of an identity other than the system. -/
def admitting : Acl → Identity → Permission → List Consultation
  | closed, _, _ => []
  | sids o, who, p => o.consultedFor p who.sids
  | entries es parent, who, p =>
    if ((Oracle.entries es).resolve who p).isSome then [] else parent.admitting who p
  | custom _ _, _, _ => []
  | guarded t hooks inner, who, p =>
    (Hook.asked t who p hooks).map (fun h => .hook h.tag)
      ++ if (Hook.consult hooks t who p).isSome then [] else inner.admitting who p

def consulted (a : Acl) (who : Identity) (p : Permission) : List Consultation :=
  if who.isSystem then [] else a.admitting who p

/-- The permissions are asked for until one of them is held. -/
def consultedAny (a : Acl) (who : Identity) : List Permission → List Consultation
  | [] => []
  | p :: ps => a.consulted who p ++ if a.has who p then [] else a.consultedAny who ps

end Acl

end AccessPolicy
