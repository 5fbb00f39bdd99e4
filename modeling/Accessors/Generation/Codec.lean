import Accessors.Generation
import Accessors.Model.Codec

/-!
# Requests as JSON

The JSON forms of what a request is given and of what it reports, with their decoders.
-/

namespace Accessors

open Json (Decoder Schema)

namespace ConstructorPolicy

def name : ConstructorPolicy → String
  | .requireMandatory => "require-mandatory"
  | .always => "always"

def toJson (p : ConstructorPolicy) : Json := .str p.name

def decoder : Decoder ConstructorPolicy :=
  .choice ([.requireMandatory, .always].map fun p => (p.name, p))

end ConstructorPolicy

namespace Granularity

def name : Granularity → String
  | .perRequest => "per-request"
  | .perMember => "per-member"

def toJson (g : Granularity) : Json := .str g.name

def decoder : Decoder Granularity := .choice ([.perRequest, .perMember].map fun g => (g.name, g))

end Granularity

namespace Options

def toJson (o : Options) : Json :=
  .obj [("constructor_policy", o.constructorPolicy.toJson), ("granularity", o.granularity.toJson)]

def schema := Schema.field "constructor_policy" ConstructorPolicy.decoder
    (.value .requireMandatory) <|
  .field "granularity" Granularity.decoder (.value .perRequest) .done

def decoder : Decoder Options :=
  .map (fun (constructorPolicy, granularity, ()) => { constructorPolicy, granularity })
    (schema.decoder "GenerateOptions")

end Options

namespace Policy

def toJson (p : Policy) : Json :=
  .obj [("reject_duplicate_operations", .bool p.rejectDuplicateOperations)]

def schema := Schema.field "reject_duplicate_operations" .bool .required .done

def decoder : Decoder Policy :=
  .map (fun (rejectDuplicateOperations, ()) => { rejectDuplicateOperations })
    (schema.decoder "RepositoryPolicy")

end Policy

namespace Receipt

def toJson (r : Receipt) : Json :=
  .obj [("command_id", .str r.commandId), ("label", .str r.label), ("hash", .str r.hash),
    ("inserted", .ofNat r.inserted)]

def schema := Schema.field "command_id" .string .required <|
  .field "label" .string .required <|
  .field "hash" .string .required <|
  .field "inserted" .count .required .done

def decoder : Decoder Receipt :=
  .map (fun (commandId, label, hash, inserted, ()) => { commandId, label, hash, inserted })
    (schema.decoder "CommitReceipt")

end Receipt

namespace Report

def toJson (r : Report) : Json :=
  .obj [("constructors", .ofNat r.constructors), ("getters", .ofNat r.getters),
    ("setters", .ofNat r.setters), ("skipped", .ofNat r.skipped),
    ("duplicates", .ofNat r.duplicates), ("commands", .arr (r.commands.map Receipt.toJson))]

def schema := Schema.field "constructors" .count .required <|
  .field "getters" .count .required <|
  .field "setters" .count .required <|
  .field "skipped" .count .required <|
  .field "duplicates" .count .required <|
  .field "commands" (.list Receipt.decoder) .required .done

def decoder : Decoder Report :=
  .map (fun (constructors, getters, setters, skipped, duplicates, commands, ()) =>
      { constructors, getters, setters, skipped, duplicates, commands })
    (schema.decoder "GenerationReport")

end Report

end Accessors
