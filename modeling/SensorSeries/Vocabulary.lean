/-!
# Vocabulary

The fixed names of the observations model: parameters with a meaning of their own, types of
observations, and the option that asks for a reprojection.
-/

namespace SensorSeries.Vocabulary

def samplingGeometry : String :=
  "http://www.opengis.net/def/param-name/OGC-OM/2.0/samplingGeometry"

def height : String := "http://www.opengis.net/def/param-name/OGC-OM/2.0/height"

def depth : String := "http://www.opengis.net/def/param-name/OGC-OM/2.0/depth"

def observationType (name : String) : String :=
  "http://www.opengis.net/def/observationType/OGC-OM/2.0/" ++ name

def measurement : String := observationType "OM_Measurement"

def countObservation : String := observationType "OM_CountObservation"

def truthObservation : String := observationType "OM_TruthObservation"

def textObservation : String := observationType "OM_TextObservation"

def categoryObservation : String := observationType "OM_CategoryObservation"

def geometryObservation : String := observationType "OM_GeometryObservation"

def complexObservation : String := observationType "OM_ComplexObservation"

def arrayObservation : String := observationType "OM_SWEArrayObservation"

/-- The types whose results are structured records; these are not joined to series. -/
def recordTypes : List String := [arrayObservation, complexObservation]

/-- The request option that names a reference system. -/
def crs : String := "crs"

end SensorSeries.Vocabulary
