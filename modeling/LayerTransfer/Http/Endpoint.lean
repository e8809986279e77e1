import LayerTransfer.TransferError
import LayerTransfer.Url.Basic

namespace LayerTransfer.Http

/-- The text of an endpoint: `<scheme>://<host>/v2/<name>/<path>`. -/
def endpointText (r : Name.Repository) (path : String) : String :=
  r.registry.baseUrl ++ "/v2/" ++ r.name ++ "/" ++ path

def endpoint (r : Name.Repository) (path : String) : Outcome Url :=
  (Url.parse (endpointText r path)).mapError fun f =>
    .registry "building URL for" r.text f.message

def uploadsPath : String := "blobs/uploads/"

def blobPath (d : Digest) : String := "blobs/" ++ d.text

def manifestPath (r : Name.Reference) : String := "manifests/" ++ r.identifier

end LayerTransfer.Http
