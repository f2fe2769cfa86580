import IngressGateway.Resource

/-!
What the user of a conversion can choose, and the labels of generated objects, which follow from it.
-/

set_option autoImplicit false

namespace IngressGateway

structure Settings where
  /-- The class of a gateway for which no virtual server names one. -/
  gatewayClass : String
  toolName : String
  httpPort : Unsigned16
  httpsPort : Unsigned16
deriving DecidableEq, Repr

namespace Settings

def usualHttpPort : Unsigned16 := ⟨80, by decide⟩

def usualHttpsPort : Unsigned16 := ⟨443, by decide⟩

def usual : Settings := ⟨"nginx", "nic2gw", usualHttpPort, usualHttpsPort⟩

/-- Every choice may be missing. -/
def record : Record Settings Settings :=
  mk <$> .defaulted "gatewayClass" .text usual.gatewayClass gatewayClass
    <*> .defaulted "toolName" .text usual.toolName toolName
    <*> .defaulted "httpPort" .unsigned16 usual.httpPort httpPort
    <*> .defaulted "httpsPort" .unsigned16 usual.httpsPort httpsPort

def labelKey (s : Settings) (key : String) : String := s.toolName ++ ".io/" ++ key

def managedByKey : String := "app.kubernetes.io/managed-by"

/-- Labels that name the tool and the kind of resource that an object was made from. -/
def baseLabels (s : Settings) (source : String) : TextMap :=
  (SortedMap.empty.insert managedByKey s.toolName).insert (s.labelKey "source") source

def ownedLabels (s : Settings) (source ownerKey owner : String) : TextMap :=
  (s.baseLabels source).insert (s.labelKey ownerKey) owner

def virtualServerLabels (s : Settings) (source owner : String) : TextMap :=
  s.ownedLabels source "vs-name" owner

def transportServerLabels (s : Settings) (source owner : String) : TextMap :=
  s.ownedLabels source "ts-name" owner

end Settings

/-- The values of the label that tells where an object comes from. -/
def fromVirtualServer : String := "nginx-virtualserver"

def fromVirtualServerTls : String := "nginx-virtualserver-tls"

def fromTransportServer : String := "nginx-transportserver"

end IngressGateway
