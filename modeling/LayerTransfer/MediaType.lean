namespace LayerTransfer

structure MediaType where
  text : String
deriving DecidableEq, Repr

namespace MediaType

def dockerLayer : MediaType := ⟨"application/vnd.docker.image.rootfs.diff.tar.gzip"⟩

def dockerConfig : MediaType := ⟨"application/vnd.docker.container.image.v1+json"⟩

def dockerManifest : MediaType := ⟨"application/vnd.docker.distribution.manifest.v2+json"⟩

def ociManifest : MediaType := ⟨"application/vnd.oci.image.manifest.v1+json"⟩

def manifestAccept : String :=
  dockerManifest.text ++ ", " ++ ociManifest.text

end MediaType

end LayerTransfer
