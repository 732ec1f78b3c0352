import PageObject.Config.Reader
import PageObject.Fault
import PageObject.Registry

namespace PageObject

inductive Failure where
  | text (error : Json.TextError)
  | config (error : ConfigError)
  | fault (fault : Fault)
deriving DecidableEq, Repr

def Config.ofText (text : String) : Except Failure Config := do
  let config ← (Config.read text).mapError .text
  config.check.mapError .config
  return config

def Registry.ofText (text : String) : Except Failure Registry := do
  let config ← Config.ofText text
  (Registry.ofConfig config).mapError .config

end PageObject
