/-!
# What can go wrong at an endpoint

A location text that cannot be read is a `LocationFault`. Everything else that stops a query
is an `AccessError`; only an unreachable endpoint ends a whole batch.
-/

namespace EndpointMonitor

/-- Why a text or a value is not a location. -/
inductive LocationFault where
  | danglingEscape (text : String)
  | notKeyValue (part text : String)
  | emptyKeyOrValue (text : String)
  | noDomain (text : String)
  | duplicateKey (key text : String)
  | noKeyProperties (text : String)
  | notAPath (text : String)
  | badSegment (segment text : String)
  | notAnAddress (json : String)
  | badAddressElement (json : String)
  | unreadableUrl (url reason : String)
  | unsupportedScheme (url : String)
  deriving DecidableEq, Inhabited

/-- The wording of a location fault. -/
def LocationFault.message : LocationFault → String
  | .danglingEscape text => "dangling escape in [" ++ text ++ "]"
  | .notKeyValue part text => "[" ++ part ++ "] in [" ++ text ++ "] is not key=value"
  | .emptyKeyOrValue text => "empty key or value in [" ++ text ++ "]"
  | .noDomain text => "[" ++ text ++ "] has no domain separator"
  | .duplicateKey key text => "duplicate key [" ++ key ++ "] in [" ++ text ++ "]"
  | .noKeyProperties text => "[" ++ text ++ "] has no key properties"
  | .notAPath text => "[" ++ text ++ "] is not a platform path"
  | .badSegment segment text => "bad segment [" ++ segment ++ "] in [" ++ text ++ "]"
  | .notAnAddress json => "not an address: " ++ json
  | .badAddressElement json => "bad address element: " ++ json
  | .unreadableUrl url reason => url ++ ": " ++ reason
  | .unsupportedScheme url => "unsupported scheme in [" ++ url ++ "]"

/-- Why a query of an endpoint has no answer. -/
inductive AccessError where
  | unreachable (reason : String)
  | refused (reason : String)
  | mismatch (single pattern : String)
  | invalidLocation (fault : LocationFault)
  deriving DecidableEq, Inhabited

/-- The wording of an access error. -/
def AccessError.message : AccessError → String
  | .unreachable reason => "Endpoint unreachable: " ++ reason
  | .refused reason => "Protocol failure: " ++ reason
  | .mismatch single pattern =>
    "[" ++ single ++ "] did not result from multi-target location [" ++ pattern ++ "]"
  | .invalidLocation fault => "Invalid location: " ++ fault.message

/-- Whether the endpoint could not be reached at all. -/
def AccessError.isUnreachable : AccessError → Bool
  | .unreachable _ => true
  | _ => false

end EndpointMonitor
