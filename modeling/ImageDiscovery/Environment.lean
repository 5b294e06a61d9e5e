import ImageDiscovery.Mapping

/-!
# Environment — settings from outside

The variables that the program was started with.  All of its own begin with one mark; whether one is
set to nothing or not set at all may make a difference.
-/

namespace ImageDiscovery

abbrev Environment := Mapping Text

namespace Environment

def logFormat : Text := "ACDISCOVERY_LOG_FORMAT"

def logLevel : Text := "ACDISCOVERY_LOG_LEVEL"

def serviceName : Text := "ACDISCOVERY_SERVICE_NAME"

def debug : Text := "ACDISCOVERY_DEBUG"

def dialTimeout : Text := "ACDISCOVERY_DIAL_TIMEOUT"

def names : List Text := [logFormat, logLevel, serviceName, debug, dialTimeout]

end Environment

end ImageDiscovery
